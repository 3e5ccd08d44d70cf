import Mathlib
import ScriptBuild.Module.Outcome

/-!
# What a result record says

A text is a result if it is JSON of a record with a status and the field that goes with it. The
reader takes the record apart step by step; here it is described as a whole, and what is read is
exactly what the record says.

A record may be written as an object or as an array. In an object, members of other names stand
freely and in any order, but the status and the field must not come twice, and neither may a name be
garbled. In an array nothing but the two may stand. That the whole text is well-formed, down to a
fixed depth, is required in both cases and comes in as `isSound`.

`Says` is the description: a record that says how a method ended. It has one rule for each status,
so the case split is on the status that is read, and a status of any other name says nothing. Only
integers of 32 bits are values; a number that is written with a fraction or an exponent is none.

**Results.**
* `isField_iff`, `isField_filter`: one member of a name, found by leaving out all others.
* `fields?_object`, `fields?_array`: what is given for a single field.
* `exists_tagged_iff`: status and field together are a record.
* `result?_eq_some_iff`, `readResult?_eq_some_iff`: what is read is what is said.
-/
namespace ScriptBuild

namespace Json.Value

variable {members : List (Word × Value)} {name other : String} {field : Option Value}
  {items : List Value}

/-- What an object has under a name: one member with this value, or none. -/
def IsField (members : List (Word × Value)) (name : String) : Option Value → Prop
  | none => ∀ member ∈ members, member.1 ≠ some name
  | some value => ∃ front back, members = front ++ (some name, value) :: back ∧
      ∀ member ∈ front ++ back, member.1 ≠ some name

theorem isField_iff : IsField members name field ↔
    members.filter (·.1 == some name) = (field.map (some name, ·)).toList := by
  cases field with
  | none => simp [IsField, List.filter_eq_nil_iff]
  | some value =>
    simp only [IsField, Option.map_some, Option.toList_some, List.filter_eq_cons_iff,
      List.filter_eq_nil_iff, List.mem_append, or_imp, forall_and, beq_iff_eq]
    constructor
    · rintro ⟨front, back, hmembers, hfront, hback⟩
      exact ⟨front, back, hmembers, hfront, trivial, hback⟩
    · rintro ⟨front, back, hmembers, hfront, -, hback⟩
      exact ⟨front, back, hmembers, hfront, hback⟩

theorem isField_filter (h : name ≠ other) :
    IsField (members.filter (·.1 != some other)) name field ↔ IsField members name field := by
  have hboth : ∀ member : Word × Value,
      (member.1 == some name && member.1 != some other) = (member.1 == some name) := by
    intro member
    by_cases hname : member.1 = some name <;> simp [hname, h]
  rw [isField_iff, isField_iff, List.filter_filter]
  simp only [hboth]

def named (member : String × Value) : Word × Value := (some member.1, member.2)

theorem exists_map_named (texts : ∀ member ∈ members, member.1.isSome = true) :
    ∃ plain, members = List.map named plain := by
  have hrange : members ∈ Set.range (List.map named) := by
    rw [Set.range_list_map]
    intro member hmember
    obtain ⟨key, hkey⟩ := Option.isSome_iff_exists.mp (texts member hmember)
    exact ⟨(key, member.2), Prod.ext hkey.symm rfl⟩
  obtain ⟨plain, hplain⟩ := hrange
  exact ⟨plain, hplain.symm⟩

theorem mapM_named (plain : List (String × Value)) :
    (plain.map named).mapM (fun (key, value) => key.map (·, value)) = some plain := by
  induction plain with
  | nil => rfl
  | cons member plain ih => simp [named, ih]

/-- An object whose names are texts gives what it has under a name, if that is at most one member. -/
theorem fields?_object (texts : ∀ member ∈ members, member.1.isSome = true) :
    (object members).fields? [name] = some [field] ↔ IsField members name field := by
  obtain ⟨plain, rfl⟩ := exists_map_named texts
  have hfilter : (plain.map named).filter (·.1 == some name) =
      (plain.filter (·.1 == name)).map named := by
    rw [List.filter_map]
    congr 1
  simp only [fields?, mapM_named, isField_iff, hfilter, Option.bind_some, Option.bind_eq_bind]
  cases hfound : plain.filter (·.1 == name) with
  | nil => cases field <;> simp [hfound]
  | cons first rest =>
    have hfirst : first.1 = name := by
      have hmem : first ∈ plain.filter (·.1 == name) := hfound ▸ List.mem_cons_self
      simpa using (List.mem_filter.mp hmem).2
    cases rest with
    | nil => cases field <;> simp [hfound, hfirst, named]
    | cons second rest => cases field <;> simp [hfound]

/-- An array gives its first item for a single field, and is too long with a second one. -/
theorem fields?_array : (array items).fields? [name] = some [field] ↔ items = field.toList := by
  match items, field with
  | [], none => simp [fields?]
  | [], some _ => simp [fields?]
  | [item], none => simp [fields?]
  | [item], some value => simp [fields?]
  | _ :: _ :: _, none => simp [fields?]
  | _ :: _ :: _, some _ => simp [fields?]

theorem text?_eq_some_iff {value : Value} {text : String} :
    value.text? = some text ↔ value = .string (some text) := by
  cases value <;> simp [text?]

theorem isSome_of_isSound {depth : Nat} (sound : (object members).isSound depth = true) :
    ∀ member ∈ members, member.1.isSome = true := by
  cases depth with
  | zero => simp [isSound] at sound
  | succ depth =>
    rw [isSound, List.all_eq_true] at sound
    intro member hmember
    exact (Bool.and_eq_true_iff.mp (sound member hmember)).1

end Json.Value

namespace Module

open Json (Numeral Value Word)
open Json.Value (IsField fields?_array fields?_object isField_filter isField_iff isSome_of_isSound
  text?_eq_some_iff)

variable {value : Value} {status name : String} {field : Option Value} {invocation : Invocation}

/-! ## What a record says -/

/-- A record with this status and, under this name, this field. Members of other names stand in it
freely. Written as an array it is the status and the field, and nothing else. -/
inductive IsRecord (status name : String) : Value → Option Value → Prop
  | named {members field} : IsField members "status" (some (.string (some status))) →
      IsField members name field → IsRecord status name (.object members) field
  | listed (field : Option Value) :
      IsRecord status name (.array (.string (some status) :: field.toList)) field

/-- What the field of a return gives: an integer of 32 bits, or nothing where it is null or not
there. -/
inductive Gives : Option Value → Option Int32 → Prop
  | absent : Gives none none
  | null : Gives (some .null) none
  | number {numeral : Numeral} {code : Int32} : numeral.integer? = some code.toInt →
      Gives (some (.number numeral)) (some code)

/-- How a record says that a method ended. -/
inductive Says (value : Value) : Invocation → Prop
  | returned {field code} : IsRecord "returned" "value" value field → Gives field code →
      Says value (.returned code)
  | faulted {text} : IsRecord "faulted" "exception" value (some (.string (some text))) →
      Says value (.faulted text)

/-- The text is a record that says so, and sound throughout. -/
def Spells (text : String) (invocation : Invocation) : Prop :=
  ∃ value, Value.ofText? text = some value ∧ value.isSound resultDepth = true ∧
    Says value invocation

/-! ## What is read -/

theorem int32?_eq_some_iff {numeral : Numeral} {code : Int32} :
    int32? (.number numeral) = some code ↔ numeral.integer? = some code.toInt := by
  simp only [int32?, Option.bind_eq_bind, Option.bind_eq_some_iff]
  constructor
  · rintro ⟨value, hinteger, h⟩
    split at h
    · rename_i hrange
      cases h
      rw [Int32.toInt_ofInt_of_le hrange.1 hrange.2, hinteger]
    · cases h
  · intro hinteger
    refine ⟨code.toInt, hinteger, ?_⟩
    rw [if_pos ⟨Int32.le_toInt code, Int32.toInt_lt code⟩, Int32.ofInt_toInt]

theorem returned?_eq_some_iff {code : Option Int32} :
    returned? value = some code ↔ Gives (some value) code := by
  cases value with
  | null =>
    constructor
    · rintro ⟨⟩
      exact .null
    · rintro ⟨⟩
      rfl
  | number numeral =>
    simp only [returned?, Option.map_eq_some_iff, int32?_eq_some_iff]
    constructor
    · rintro ⟨code, hinteger, rfl⟩
      exact .number hinteger
    · rintro ⟨⟩
      exact ⟨_, ‹_›, rfl⟩
  | _ =>
    constructor
    · rintro ⟨⟩
    · rintro ⟨⟩

theorem tagged?_object {members : List (Word × Value)} {record : Value} :
    tagged? (.object members) = some (status, record) ↔
      IsField members "status" (some (.string (some status))) ∧
        record = .object (members.filter (·.1 != some "status")) := by
  rw [isField_iff]
  simp only [tagged?]
  split
  · rename_i word text hfilter
    rw [hfilter]
    have hword : word = some "status" := by
      have hmem : (word, Value.string (some text)) ∈ members.filter (·.1 == some "status") :=
        hfilter ▸ List.mem_cons_self
      simpa using (List.mem_filter.mp hmem).2
    simp [hword, eq_comm]
  · rename_i hnot
    simp
    intro h
    exact absurd h (hnot _ _)

/-- The parts that a sound value is taken to, if it is a record. -/
theorem exists_tagged_iff (sound : value.isSound resultDepth = true) (hname : name ≠ "status") :
    (∃ record, tagged? value = some (status, record) ∧ record.fields? [name] = some [field]) ↔
      IsRecord status name value field := by
  constructor
  · rintro ⟨record, htagged, hfields⟩
    match value, htagged with
    | .object members, htagged =>
      obtain ⟨hstatus, rfl⟩ := tagged?_object.mp htagged
      have hnamed : ∀ member ∈ members.filter (·.1 != some "status"), member.1.isSome = true :=
        fun member hmember => isSome_of_isSound sound member (List.mem_of_mem_filter hmember)
      exact .named hstatus ((isField_filter hname).mp ((fields?_object hnamed).mp hfields))
    | .array (.string (some text) :: rest), htagged =>
      obtain ⟨rfl, rfl⟩ : text = status ∧ .array rest = record := by simpa [tagged?] using htagged
      obtain rfl := fields?_array.mp hfields
      exact .listed field
  · intro hrecord
    cases hrecord with
    | @named members _ hstatus hfield =>
      have hnamed : ∀ member ∈ members.filter (·.1 != some "status"), member.1.isSome = true :=
        fun member hmember => isSome_of_isSound sound member (List.mem_of_mem_filter hmember)
      exact ⟨_, tagged?_object.mpr ⟨hstatus, rfl⟩,
        (fields?_object hnamed).mpr ((isField_filter hname).mpr hfield)⟩
    | listed => exact ⟨.array field.toList, rfl, fields?_array.mpr rfl⟩

theorem says_of_result? (h : result? value = some invocation) :
    value.isSound resultDepth = true ∧ Says value invocation := by
  unfold result? at h
  split at h
  · cases h
  · rename_i hsound
    rw [Bool.not_eq_true', Bool.not_eq_false] at hsound
    refine ⟨hsound, ?_⟩
    obtain ⟨⟨status, record⟩, htagged, h⟩ := Option.bind_eq_some_iff.mp h
    simp only at h
    split at h
    · rename_i hstatus
      subst hstatus
      obtain ⟨fields, hfields, h⟩ := Option.bind_eq_some_iff.mp h
      have hrecord : ∀ field, fields = [field] → IsRecord "returned" "value" value field := by
        rintro field rfl
        exact (exists_tagged_iff hsound (by decide)).mp ⟨record, htagged, hfields⟩
      split at h
      · cases h
        exact .returned (hrecord none rfl) .absent
      · rename_i given
        obtain ⟨code, hcode, rfl⟩ := Option.map_eq_some_iff.mp h
        exact .returned (hrecord (some given) rfl) (returned?_eq_some_iff.mp hcode)
      · cases h
    · split at h
      · rename_i hstatus
        subst hstatus
        obtain ⟨fields, hfields, h⟩ := Option.bind_eq_some_iff.mp h
        split at h
        · rename_i message
          obtain ⟨text, htext, rfl⟩ := Option.map_eq_some_iff.mp h
          obtain rfl := text?_eq_some_iff.mp htext
          exact .faulted
            ((exists_tagged_iff hsound (by decide)).mp ⟨record, htagged, hfields⟩)
        · cases h
      · cases h

theorem result?_of_says (sound : value.isSound resultDepth = true) (h : Says value invocation) :
    result? value = some invocation := by
  cases h with
  | @returned field code hrecord hgives =>
    obtain ⟨record, htagged, hfields⟩ := (exists_tagged_iff sound (by decide)).mpr hrecord
    have hcode : ∀ given, field = some given → returned? given = some code := by
      rintro given rfl
      exact returned?_eq_some_iff.mpr hgives
    cases field with
    | none =>
      cases hgives
      simp [result?, sound, htagged, hfields]
    | some given => simp [result?, sound, htagged, hfields, hcode given rfl]
  | faulted hrecord =>
    obtain ⟨record, htagged, hfields⟩ := (exists_tagged_iff sound (by decide)).mpr hrecord
    simp [result?, sound, htagged, hfields, text?_eq_some_iff]

/-- A result is read off exactly the values that say it. -/
theorem result?_eq_some_iff : result? value = some invocation ↔
    value.isSound resultDepth = true ∧ Says value invocation :=
  ⟨says_of_result?, fun ⟨sound, h⟩ => result?_of_says sound h⟩

theorem readResult?_eq_some_iff {text : String} :
    readResult? text = some invocation ↔ Spells text invocation := by
  simp only [readResult?, Option.bind_eq_some_iff, result?_eq_some_iff, Spells]

end Module

end ScriptBuild
