import Mathlib
import ScriptBuild.Module

/-!
# Which entry point is chosen

A class offers an entry point if one of its methods can start a run. Of the classes that offer one
that of least name is chosen, and of those that share the name the first; of its methods, the first
that can start a run. Names are compared code point by code point.

There are three choices to keep apart: between methods of a class, where order decides; between
classes of different names, where the name decides; and between classes that share a name, where
order decides again. A class that offers nothing takes no part, even if its name is the least. Each
is a split of the list into what stands in front and what stands behind, so that "first" and "least"
are said without positions.

The entry point is found by folding over the candidates, while a visit sorts the classes first and
stops at the first that offers one. The sort is stable, which is why both come to the same also
among classes of one name; the induction is over the list, with the place that a class is sorted
into.

**Results.**
* `ofType?_eq_some_iff`: what a type offers.
* `least_eq_some_iff`: the first of least name is chosen.
* `find?_eq_some_iff`, `find?_eq_none_iff`: what is chosen from a list of types, and when nothing
  is.
* `find?_perm`: where classes have different names, their order does not matter.
* `find?_eq_findSome?_mergeSort`: visiting the classes by name gives the same entry point.
* `find?_chooses_least`: all of this together.
-/
namespace ScriptBuild.EntryPoint

variable {types others : List TypeInfo} {type : TypeInfo} {method : MethodInfo}
  {entry best : EntryPoint} {entries : List EntryPoint}

/-! ## What a type offers -/

/-- A public static `Main`, without parameters or with one array of texts. -/
structure CanStart (method : MethodInfo) : Prop where
  name : method.name = "Main"
  isPublic : method.isPublic = true
  isStatic : method.isStatic = true
  parameters : method.parameters = [] ∨ method.parameters = [.stringArray]

/-- A class with a method that can start a run. -/
def Offers (type : TypeInfo) : Prop :=
  type.isClass = true ∧ ∃ method ∈ type.methods, CanStart method

/-- The first of a type's methods that can start a run. -/
def StartsWith (type : TypeInfo) (method : MethodInfo) : Prop :=
  ∃ early late, type.methods = early ++ method :: late ∧ CanStart method ∧
    ∀ other ∈ early, ¬CanStart other

/-- An entry point tells of a method of a type. -/
structure Describes (entry : EntryPoint) (type : TypeInfo) (method : MethodInfo) : Prop where
  typeName : entry.typeName = type.name
  name : entry.method = method.name
  takesArgs : entry.takesArgs = true ↔ method.parameters ≠ []
  returnsInt : entry.returnsInt = true ↔ method.returnType = .int32

theorem qualifies_iff : qualifies method = true ↔ CanStart method := by
  simp only [qualifies, Bool.and_eq_true, Bool.or_eq_true, beq_iff_eq]
  constructor
  · rintro ⟨⟨⟨hname, hpublic⟩, hstatic⟩, hparameters⟩
    exact ⟨hname, hpublic, hstatic, hparameters⟩
  · rintro ⟨hname, hpublic, hstatic, hparameters⟩
    exact ⟨⟨⟨hname, hpublic⟩, hstatic⟩, hparameters⟩

theorem find?_qualifies_eq_some_iff :
    type.methods.find? qualifies = some method ↔ StartsWith type method := by
  rw [List.find?_eq_some_iff_append, StartsWith]
  constructor
  · rintro ⟨hqualifies, early, late, hmethods, hearly⟩
    refine ⟨early, late, hmethods, qualifies_iff.mp hqualifies, fun other hother hstart => ?_⟩
    simpa [qualifies_iff.mpr hstart] using hearly other hother
  · rintro ⟨early, late, hmethods, hstart, hearly⟩
    refine ⟨qualifies_iff.mpr hstart, early, late, hmethods, fun other hother => ?_⟩
    rw [Bool.not_eq_true', Bool.eq_false_iff]
    exact fun hqualifies => hearly other hother (qualifies_iff.mp hqualifies)

theorem Describes.eq (h : Describes entry type method) : entry =
    { typeName := type.name
      method := method.name
      takesArgs := !method.parameters.isEmpty
      returnsInt := method.returnType == .int32 } := by
  obtain ⟨typeName, name, takesArgs, returnsInt⟩ := entry
  obtain ⟨hname, hmethod, htakes, hreturns⟩ := h
  have htakesArgs : takesArgs = !method.parameters.isEmpty := by
    rw [Bool.eq_iff_iff, htakes]
    simp
  have hreturnsInt : returnsInt = (method.returnType == .int32) := by
    rw [Bool.eq_iff_iff, hreturns, beq_iff_eq]
  simp only at hname hmethod
  rw [hname, hmethod, htakesArgs, hreturnsInt]

theorem ofType?_eq_some_iff : ofType? type = some entry ↔
    type.isClass = true ∧ ∃ method, StartsWith type method ∧ Describes entry type method := by
  unfold ofType?
  split
  · rename_i hclass
    rw [Option.map_eq_some_iff]
    constructor
    · rintro ⟨method, hfind, rfl⟩
      exact ⟨hclass, method, find?_qualifies_eq_some_iff.mp hfind, rfl, rfl, by simp, by simp⟩
    · rintro ⟨-, method, hstarts, hdescribes⟩
      exact ⟨method, find?_qualifies_eq_some_iff.mpr hstarts, hdescribes.eq.symm⟩
  · rename_i hclass
    simp [hclass]

theorem isSome_ofType?_iff : (ofType? type).isSome = true ↔ Offers type := by
  unfold ofType? Offers
  split
  · rename_i hclass
    rw [Option.isSome_map, List.find?_isSome]
    simp only [hclass, true_and, qualifies_iff]
  · rename_i hclass
    simp [hclass]

theorem typeName_of_ofType? (h : ofType? type = some entry) : entry.typeName = type.name := by
  obtain ⟨-, method, -, hdescribes⟩ := ofType?_eq_some_iff.mp h
  exact hdescribes.typeName

/-! ## The least of several -/

theorem least_eq_some_iff : least entries = some best ↔
    ∃ front back, entries = front ++ best :: back ∧
      (∀ other ∈ front, best.typeName < other.typeName) ∧
      ∀ other ∈ back, best.typeName ≤ other.typeName := by
  constructor
  · intro h
    induction entries with
    | nil => cases h
    | cons entry rest ih =>
      rw [least] at h
      split at h
      · rename_i hnone
        obtain rfl : entry = best := by simpa using h
        rw [least_eq_none] at hnone
        exact ⟨[], rest, rfl, by simp, by simp [hnone]⟩
      · rename_i other hother
        split at h
        · rename_i hless
          obtain rfl : other = best := by simpa using h
          obtain ⟨front, back, hrest, hfront, hback⟩ := ih hother
          refine ⟨entry :: front, back, by rw [hrest]; rfl, ?_, hback⟩
          exact List.forall_mem_cons.mpr ⟨hless, hfront⟩
        · rename_i hnot
          obtain rfl : entry = best := by simpa using h
          refine ⟨[], rest, rfl, by simp, fun later hlater => ?_⟩
          have hentry : entry.typeName ≤ other.typeName := not_lt.mp hnot
          exact hentry.trans (not_lt.mp (least_le hother hlater))
  · rintro ⟨front, back, rfl, hfront, hback⟩
    induction front with
    | nil =>
      rw [List.nil_append, least]
      split
      · rfl
      · rename_i other hother
        rw [if_neg (not_lt.mpr (hback other (least_mem hother)))]
    | cons entry front ih =>
      rw [List.forall_mem_cons] at hfront
      rw [List.cons_append, least, ih hfront.2]
      exact if_pos hfront.1

/-! ## A list of types -/

/-- The first class of least name among those that offer an entry point. -/
def LeastOffer (types : List TypeInfo) (type : TypeInfo) : Prop :=
  ∃ front back, types = front ++ type :: back ∧ Offers type ∧
    (∀ other ∈ front, Offers other → type.name < other.name) ∧
    ∀ other ∈ back, Offers other → type.name ≤ other.name

theorem find?_eq_none_iff : find? types = none ↔ ∀ type ∈ types, ¬Offers type := by
  rw [find?, least_eq_none, candidates, List.filterMap_eq_nil_iff]
  refine forall₂_congr fun type _ => ?_
  rw [← isSome_ofType?_iff, Option.not_isSome_iff_eq_none]

/-- A comparison with all candidates is one with all types that offer any. -/
theorem forall_candidates_iff {related : String → Prop} :
    (∀ other ∈ candidates types, related other.typeName) ↔
      ∀ other ∈ types, Offers other → related other.name := by
  constructor
  · intro h other hother hoffers
    obtain ⟨candidate, hcandidate⟩ := Option.isSome_iff_exists.mp (isSome_ofType?_iff.mpr hoffers)
    rw [← typeName_of_ofType? hcandidate]
    exact h candidate (List.mem_filterMap.mpr ⟨other, hother, hcandidate⟩)
  · intro h candidate hcandidate
    obtain ⟨other, hother, htype⟩ := List.mem_filterMap.mp hcandidate
    rw [typeName_of_ofType? htype]
    exact h other hother (isSome_ofType?_iff.mp (by simp [htype]))

theorem find?_eq_some_iff : find? types = some entry ↔
    ∃ type method, LeastOffer types type ∧ StartsWith type method ∧ Describes entry type method := by
  rw [find?, least_eq_some_iff]
  constructor
  · rintro ⟨before, after, hcandidates, hbefore, hafter⟩
    obtain ⟨front, rest, rfl, rfl, hrest⟩ := List.filterMap_eq_append_iff.mp hcandidates
    obtain ⟨silent, type, back, rfl, hsilent, htype, rfl⟩ := List.filterMap_eq_cons_iff.mp hrest
    obtain ⟨-, method, hstarts, hdescribes⟩ := ofType?_eq_some_iff.mp htype
    have hoffers : Offers type := isSome_ofType?_iff.mp (by simp [htype])
    rw [typeName_of_ofType? htype] at hbefore hafter
    refine ⟨type, method, ⟨front ++ silent, back, by simp, hoffers, fun other hother hoffer => ?_,
      forall_candidates_iff.mp hafter⟩, hstarts, hdescribes⟩
    rcases List.mem_append.mp hother with hfront | hquiet
    · exact forall_candidates_iff.mp hbefore other hfront hoffer
    · simp [← isSome_ofType?_iff, hsilent other hquiet] at hoffer
  · rintro ⟨type, method, ⟨front, back, rfl, hoffers, hfront, hback⟩, hstarts, hdescribes⟩
    have htype : ofType? type = some entry :=
      ofType?_eq_some_iff.mpr ⟨hoffers.1, method, hstarts, hdescribes⟩
    refine ⟨candidates front, candidates back, ?_, ?_, ?_⟩
    · simp [candidates, htype]
    · rw [hdescribes.typeName]
      exact forall_candidates_iff.mpr hfront
    · rw [hdescribes.typeName]
      exact forall_candidates_iff.mpr hback

/-! ## The order of the types -/

theorem nodup_typeName_candidates (distinct : ((types.filter (·.isClass)).map (·.name)).Nodup) :
    ((candidates types).map (·.typeName)).Nodup := by
  refine distinct.sublist ?_
  clear distinct
  unfold candidates
  induction types with
  | nil => exact .slnil
  | cons type types ih =>
    cases hclass : type.isClass with
    | false =>
      have hnone : ofType? type = none := by simp [ofType?, hclass]
      simpa [hclass, hnone] using ih
    | true =>
      rw [List.filter_cons_of_pos hclass, List.map_cons]
      cases htype : ofType? type with
      | none => simpa [htype] using ih.cons type.name
      | some entry =>
        rw [List.filterMap_cons_some htype, List.map_cons, typeName_of_ofType? htype]
        exact ih.cons_cons _

theorem find?_perm (order : types.Perm others)
    (distinct : ((types.filter (·.isClass)).map (·.name)).Nodup) :
    find? types = find? others := by
  have hcandidates : (candidates types).Perm (candidates others) := order.filterMap _
  cases hthis : find? types with
  | none =>
    rw [find?, least_eq_none] at hthis
    rw [hthis, List.nil_perm] at hcandidates
    exact (least_eq_none.mpr hcandidates).symm
  | some entry =>
    cases hother : find? others with
    | none =>
      rw [find?, least_eq_none] at hother
      rw [hother, List.perm_nil] at hcandidates
      simp [find?, least_eq_none.mpr hcandidates] at hthis
    | some other =>
      -- Neither name is the lesser one, so they are equal, and so are the entry points.
      have hmem : entry ∈ candidates types := least_mem hthis
      have hmem' : other ∈ candidates types := hcandidates.mem_iff.mpr (least_mem hother)
      have hsame : entry.typeName = other.typeName :=
        le_antisymm (not_lt.mp (least_le hthis hmem'))
          (not_lt.mp (least_le hother (hcandidates.mem_iff.mp hmem)))
      rw [List.inj_on_of_nodup_map (nodup_typeName_candidates distinct) hmem hmem' hsame]

/-- The classes by name, in their own order where they share one. -/
def byName (types : List TypeInfo) : List TypeInfo :=
  (types.filter (·.isClass)).mergeSort fun type other => type.name ≤ other.name

theorem byName_cons (hclass : type.isClass = true) (types : List TypeInfo) :
    ∃ less rest, byName (type :: types) = less ++ type :: rest ∧ byName types = less ++ rest ∧
      (∀ other ∈ less, other.name < type.name) ∧ ∀ other ∈ rest, type.name ≤ other.name := by
  have htrans : ∀ a b c : TypeInfo, decide (a.name ≤ b.name) = true →
      decide (b.name ≤ c.name) = true → decide (a.name ≤ c.name) = true := fun a b c hab hbc =>
    decide_eq_true ((of_decide_eq_true hab).trans (of_decide_eq_true hbc))
  have htotal : ∀ a b : TypeInfo, (decide (a.name ≤ b.name) || decide (b.name ≤ a.name)) = true :=
    fun a b => by simpa using le_total a.name b.name
  obtain ⟨less, rest, hplaced, hothers, hless⟩ :=
    List.mergeSort_cons htrans htotal type (types.filter (·.isClass))
  have hsorted := List.pairwise_mergeSort htrans htotal (type :: types.filter (·.isClass))
  rw [hplaced, List.pairwise_append, List.pairwise_cons] at hsorted
  refine ⟨less, rest, by rw [byName, List.filter_cons_of_pos hclass, hplaced], hothers,
    fun other hother => ?_, fun other hother => of_decide_eq_true (hsorted.2.1.1 other hother)⟩
  have hnot := hless other hother
  rw [Bool.not_eq_true', decide_eq_false_iff_not] at hnot
  exact not_le.mp hnot

/-- To visit the classes by name gives the same entry point. -/
theorem find?_eq_findSome?_mergeSort (types : List TypeInfo) :
    find? types = (byName types).findSome? ofType? := by
  induction types with
  | nil => simp [find?, candidates, least, byName]
  | cons type types ih =>
    cases hclass : type.isClass with
    | false =>
      have hnone : ofType? type = none := by simp [ofType?, hclass]
      simpa [find?, candidates, byName, hclass, hnone] using ih
    | true =>
      -- The class goes in front of those whose name is not less than its own.
      obtain ⟨less, rest, hplaced, hothers, hless⟩ := byName_cons hclass types
      rw [hothers, List.findSome?_append] at ih
      rw [hplaced, List.findSome?_append, List.findSome?_cons]
      cases htype : ofType? type with
      | none =>
        have hskip : candidates (type :: types) = candidates types :=
          List.filterMap_cons_none htype
        rw [find?, hskip, ← ih, find?]
      | some entry =>
        have hadd : candidates (type :: types) = entry :: candidates types :=
          List.filterMap_cons_some htype
        rw [find?] at ih
        rw [find?, hadd, least, ih]
        cases hfirst : less.findSome? ofType? with
        | some best =>
          obtain ⟨other, hother, hbest⟩ := List.exists_of_findSome?_eq_some hfirst
          have hname : best.typeName < entry.typeName := by
            rw [typeName_of_ofType? hbest, typeName_of_ofType? htype]
            exact hless.1 other hother
          exact if_pos hname
        | none =>
          cases hlast : rest.findSome? ofType? with
          | none => rfl
          | some best =>
            obtain ⟨other, hother, hbest⟩ := List.exists_of_findSome?_eq_some hlast
            have hname : entry.typeName ≤ best.typeName := by
              rw [typeName_of_ofType? hbest, typeName_of_ofType? htype]
              exact hless.2 other hother
            exact if_neg (not_lt.mpr hname)

/-- Whatever the types of a module: the entry point is the one found by visiting the classes by name.
There is none just if no class offers one. Otherwise it is the first class of least name among those
that offer one which is chosen, with its first method that can start a run; and where classes have
different names, any other order of the types gives the same. -/
theorem find?_chooses_least (types : List TypeInfo) :
    find? types = (byName types).findSome? ofType? ∧
    (find? types = none ↔ ∀ type ∈ types, ¬Offers type) ∧
    (∀ entry, find? types = some entry ↔ ∃ type method, LeastOffer types type ∧
      StartsWith type method ∧ Describes entry type method) ∧
    ∀ others, types.Perm others → ((types.filter (·.isClass)).map (·.name)).Nodup →
      find? types = find? others :=
  ⟨find?_eq_findSome?_mergeSort types, find?_eq_none_iff, fun _ => find?_eq_some_iff,
    fun _ => find?_perm⟩

/-- Classes of a module of which the least offers no entry point, and an interface. -/
def mixedTypes : List TypeInfo :=
  [⟨"Zeta", true, [⟨"Main", true, true, [], .void⟩]⟩,
   ⟨"Alpha", true, [⟨"Main", false, true, [], .int32⟩]⟩,
   ⟨"Beta", true, [⟨"Main", true, true, [.int32], .int32⟩,
      ⟨"Main", true, true, [.stringArray], .int32⟩, ⟨"Main", true, true, [], .void⟩]⟩,
   ⟨"Aardvark", false, [⟨"Main", true, true, [], .int32⟩]⟩]

theorem find?_chooses_least_mixed :
    mixedTypes.Perm mixedTypes.reverse ∧
    ((mixedTypes.filter (·.isClass)).map (·.name)).Nodup ∧
    find? mixedTypes.reverse = some ⟨"Beta", "Main", true, true⟩ := by
  have horder : mixedTypes.Perm mixedTypes.reverse := (List.reverse_perm _).symm
  have hdistinct : ((mixedTypes.filter (·.isClass)).map (·.name)).Nodup := by decide
  have hfind : find? mixedTypes = some ⟨"Beta", "Main", true, true⟩ := by decide
  exact ⟨horder, hdistinct,
    ((find?_chooses_least mixedTypes).2.2.2 _ horder hdistinct).symm.trans hfind⟩

end ScriptBuild.EntryPoint
