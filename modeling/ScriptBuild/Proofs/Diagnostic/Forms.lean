import Mathlib
import ScriptBuild.Diagnostic.Listing

/-!
# The two forms of a message

A message opens with a label, which says how severe it is and gives its code. A message about a
place has a mark in front of the label: a line and a column number in parentheses, and a colon. A
line is read by these forms, whatever stands behind them, and a file's name ends where the first
mark stands.

The reader looks for a mark at every place of the line, from the left, and the first that fits wins.
So two things have to be known of a mark: when one is read, and that none can start inside another.
The first is an equivalence for each part, by the characters of that part. The second is that an
opening parenthesis stands nowhere in a mark but in front.

Labels and marks carry the proofs that their parts are of the right class and not empty (`Run`). So
what is written with them can be read back without further conditions, and the only condition left
is on the file's name: that it holds no mark itself. Whether it does can be decided, by the reader.

**Results.**
* `heading?_eq_some_iff`: a heading is read off what opens with a label.
* `placed?_eq_some_iff`: all of a message is read off what opens with a mark.
* `located?_eq_none_iff`: which lines hold no mark behind a file's name.
* `located?_append_mark`: a file's name is what stands in front of the first mark.
-/
namespace ScriptBuild.Listing

variable {cs rest run : List Char} {class_ : Char → Bool}

/-! ## The forms -/

/-- Characters of a class, at least one. -/
structure Run (class_ : Char → Bool) where
  chars : List Char
  nonempty : chars ≠ []
  inside : ∀ c ∈ chars, class_ c = true

/-- What a message opens with if it is about no place: severity, code and a colon. -/
structure Label where
  severity : Severity
  gap : Run Text.isBlank
  code : Run Text.isWordChar

/-- What stands behind a file's name: line and column, and a label. -/
structure Mark where
  line : Run Text.isDigit
  column : Run Text.isDigit
  gap : List Char
  blank : ∀ c ∈ gap, Text.isBlank c = true
  label : Label

namespace Label

def chars (label : Label) : List Char :=
  (severityName label.severity).toList ++ label.gap.chars ++ label.code.chars ++ [':']

def heading (label : Label) (message : List Char) : Heading :=
  ⟨label.severity, String.ofList label.code.chars,
    String.ofList (message.dropWhile Text.isBlank)⟩

end Label

namespace Mark

def chars (mark : Mark) : List Char :=
  '(' :: mark.line.chars ++ ',' :: mark.column.chars ++ [')', ':'] ++ mark.gap ++ mark.label.chars

def read (mark : Mark) (message : List Char) : Nat × Nat × Heading :=
  (numberValue mark.line.chars, numberValue mark.column.chars, mark.label.heading message)

end Mark

/-- There is a mark behind the first character. -/
def HoldsMark (cs : List Char) : Prop :=
  ∃ (front : List Char) (mark : Mark) (back : List Char),
    front ≠ [] ∧ cs = front ++ mark.chars ++ back

theorem HoldsMark.append (h : HoldsMark cs) (back : List Char) : HoldsMark (cs ++ back) := by
  obtain ⟨front, mark, rest, hfront, rfl⟩ := h
  exact ⟨front, mark, rest ++ back, hfront, List.append_assoc _ _ _⟩

/-! ## Readers -/

theorem run?_eq_some_iff : run? class_ cs = some (run, rest) ↔
    cs = run ++ rest ∧ run ≠ [] ∧ (∀ c ∈ run, class_ c = true) ∧
      ∀ c ∈ rest.head?, class_ c = false := by
  constructor
  · intro h
    unfold run? at h
    split at h
    · cases h
    · rename_i hne
      obtain ⟨rfl, rfl⟩ : cs.takeWhile class_ = run ∧ cs.dropWhile class_ = rest := by
        simpa using h
      refine ⟨List.takeWhile_append_dropWhile.symm, hne, fun c hc => List.mem_takeWhile_imp hc,
        fun c hc => ?_⟩
      simpa [Option.mem_def.mp hc] using List.head?_dropWhile_not class_ cs
  · rintro ⟨rfl, nonempty, inside, outside⟩
    exact run?_append nonempty inside outside

theorem after?_eq_some_iff {c : Char} : after? c cs = some rest ↔ cs = c :: rest := by
  cases cs with
  | nil => simp [after?]
  | cons d cs => simp [after?]

theorem severity?_eq_some_iff {severity : Severity} : severity? cs = some (severity, rest) ↔
    cs = (severityName severity).toList ++ rest := by
  refine ⟨fun h => ?_, fun h => h ▸ severity?_append severity rest⟩
  unfold severity? at h
  split at h
  · rename_i rest' herror
    obtain ⟨rfl, rfl⟩ : Severity.error = severity ∧ rest' = rest := by simpa using h
    exact (List.append_eq_of_isPrefixOf?_eq_some herror).symm
  · obtain ⟨rest', hwarning, rfl, rfl⟩ :
        ∃ rest', "warning".toList.isPrefixOf? cs = some rest' ∧ Severity.warning = severity ∧
          rest' = rest := by
      simpa using h
    exact (List.append_eq_of_isPrefixOf?_eq_some hwarning).symm

theorem heading?_eq_some_iff {heading : Heading} : heading? cs = some heading ↔
    ∃ (label : Label) (message : List Char),
      cs = label.chars ++ message ∧ label.heading message = heading := by
  simp only [heading?, Option.bind_eq_bind, Option.bind_eq_some_iff, Option.pure_def,
    Option.some.injEq, Prod.exists, severity?_eq_some_iff, run?_eq_some_iff, after?_eq_some_iff]
  constructor
  · rintro ⟨severity, -, rfl, gap, -, ⟨rfl, hgap, hblank, -⟩, code, -, ⟨rfl, hcode, hword, -⟩,
      message, rfl, rfl⟩
    exact ⟨⟨severity, ⟨gap, hgap, hblank⟩, ⟨code, hcode, hword⟩⟩, message, by simp [Label.chars],
      rfl⟩
  · rintro ⟨⟨severity, gap, code⟩, message, rfl, rfl⟩
    -- A blank is no word character, and neither is a colon, so each run ends where the next starts.
    have hcolon : Text.isWordChar ':' = false := by decide
    have hsolid : ∀ c ∈ (code.chars ++ ':' :: message).head?, Text.isBlank c = false := by
      intro c hc
      rw [List.head?_append_of_ne_nil _ code.nonempty] at hc
      exact Text.isBlank_of_isWordChar (code.inside c (List.mem_of_mem_head? hc))
    exact ⟨severity, _, by simp [Label.chars], gap.chars, _, ⟨rfl, gap.nonempty, gap.inside, hsolid⟩,
      code.chars, _, ⟨rfl, code.nonempty, code.inside, by simpa using hcolon⟩, message, rfl, rfl⟩

theorem position?_eq_some_iff {line column : Nat} : position? cs = some (line, column, rest) ↔
    ∃ line' column' : Run Text.isDigit,
      cs = '(' :: line'.chars ++ ',' :: column'.chars ++ [')', ':'] ++ rest ∧
        numberValue line'.chars = line ∧ numberValue column'.chars = column := by
  simp only [position?, Option.bind_eq_bind, Option.bind_eq_some_iff, Option.pure_def,
    Option.some.injEq, Prod.exists, Prod.mk.injEq, run?_eq_some_iff, after?_eq_some_iff]
  constructor
  · rintro ⟨_, rfl, line', _, ⟨rfl, hline, hdigits, -⟩, _, rfl, column', _,
      ⟨rfl, hcolumn, hdigits', -⟩, _, rfl, _, rfl, hvalue, hvalue', rfl⟩
    exact ⟨⟨line', hline, hdigits⟩, ⟨column', hcolumn, hdigits'⟩, by simp, hvalue, hvalue'⟩
  · rintro ⟨line', column', rfl, hvalue, hvalue'⟩
    have hcomma : Text.isDigit ',' = false := by decide
    have hclose : Text.isDigit ')' = false := by decide
    exact ⟨_, by simp, line'.chars, _, ⟨rfl, line'.nonempty, line'.inside, by simpa using hcomma⟩,
      _, rfl, column'.chars, _, ⟨rfl, column'.nonempty, column'.inside, by simpa using hclose⟩,
      _, rfl, _, rfl, hvalue, hvalue', rfl⟩

namespace Label

theorem isBlank_head (label : Label) : ∀ c ∈ label.chars.head?, Text.isBlank c = false := by
  obtain ⟨severity, gap, code⟩ := label
  cases severity with
  | error => simpa [chars, severityName] using show Text.isBlank 'e' = false by decide
  | warning => simpa [chars, severityName] using show Text.isBlank 'w' = false by decide

theorem chars_ne_nil (label : Label) : label.chars ≠ [] := by simp [chars]

theorem dropWhile_chars_append (label : Label) (message : List Char) :
    (label.chars ++ message).dropWhile Text.isBlank = label.chars ++ message := by
  have hhead := label.isBlank_head
  cases hchars : label.chars with
  | nil => exact absurd hchars label.chars_ne_nil
  | cons c cs =>
    have hc : Text.isBlank c = false := hhead c (by simp [hchars])
    rw [List.cons_append, List.dropWhile_cons_of_neg (by simp [hc])]

end Label

/-- All of a message is read off what opens with a mark, and off nothing else. -/
theorem placed?_eq_some_iff {found : Nat × Nat × Heading} : placed? cs = some found ↔
    ∃ (mark : Mark) (message : List Char),
      cs = mark.chars ++ message ∧ mark.read message = found := by
  obtain ⟨line, column, heading⟩ := found
  simp only [placed?, Option.bind_eq_bind, Option.bind_eq_some_iff, Option.pure_def,
    Option.some.injEq, Prod.exists, Prod.mk.injEq, position?_eq_some_iff, heading?_eq_some_iff]
  constructor
  · rintro ⟨_, _, rest, ⟨line', column', rfl, rfl, rfl⟩, _, ⟨label, message, hlabel, rfl⟩, rfl, rfl,
      rfl⟩
    have hrest : rest = rest.takeWhile Text.isBlank ++ (label.chars ++ message) := by
      rw [← hlabel, List.takeWhile_append_dropWhile]
    refine ⟨⟨line', column', rest.takeWhile Text.isBlank, fun c hc => List.mem_takeWhile_imp hc,
      label⟩, message, ?_, rfl⟩
    conv_lhs => rw [hrest]
    simp [Mark.chars]
  · rintro ⟨⟨line', column', gap, blank, label⟩, message, rfl, hread⟩
    obtain ⟨rfl, rfl, rfl⟩ : numberValue line'.chars = line ∧ numberValue column'.chars = column ∧
        label.heading message = heading := by
      simpa [Mark.read] using hread
    refine ⟨_, _, gap ++ (label.chars ++ message), ⟨line', column', by simp [Mark.chars], rfl, rfl⟩,
      _, ⟨label, message, ?_, rfl⟩, rfl, rfl, rfl⟩
    rw [List.dropWhile_append_of_pos blank, label.dropWhile_chars_append]

theorem placed?_eq_none_iff : placed? cs = none ↔
    ∀ (mark : Mark) (message : List Char), cs ≠ mark.chars ++ message := by
  rw [Option.eq_none_iff_forall_ne_some]
  constructor
  · exact fun hnone mark message hcs => hnone _ (placed?_eq_some_iff.mpr ⟨mark, message, hcs, rfl⟩)
  · intro hnone found hfound
    obtain ⟨mark, message, hcs, -⟩ := placed?_eq_some_iff.mp hfound
    exact hnone mark message hcs

/-! ## Where a file's name ends -/

/-- What is read off a line with a mark behind a file's name. -/
def Mark.diagnostic (mark : Mark) (file message : List Char) : Diagnostic :=
  ⟨⟨String.ofList file⟩, numberValue mark.line.chars, numberValue mark.column.chars,
    String.ofList mark.label.code.chars, String.ofList (message.dropWhile Text.isBlank),
    mark.label.severity⟩

theorem located?_of_placed? {back : List Char} {line column : Nat} {heading : Heading}
    (hback : back ≠ []) (h : placed? cs = some (line, column, heading)) :
    located? back cs = some ⟨⟨String.ofList back.reverse⟩, line, column, heading.code,
      heading.message, heading.severity⟩ := by
  rw [located?.eq_def]
  simp [hback, h]

theorem located?_nil (back : List Char) : located? back [] = none := by
  have hplaced : placed? [] = none := rfl
  rw [located?.eq_def]
  cases back <;> simp [hplaced]

theorem located?_cons {back : List Char} {c : Char}
    (h : back ≠ [] → placed? (c :: cs) = none) :
    located? back (c :: cs) = located? (c :: back) cs := by
  rw [located?.eq_def]
  by_cases hback : back = []
  · simp [hback]
  · simp [hback, h hback]

/-- The search passes every place that no mark stands at. -/
theorem located?_append {back front : List Char}
    (h : ∀ passed ahead, front = passed ++ ahead → ahead ≠ [] → back ++ passed ≠ [] →
      placed? (ahead ++ cs) = none) :
    located? back (front ++ cs) = located? (front.reverse ++ back) cs := by
  induction front generalizing back with
  | nil => rfl
  | cons c front ih =>
    have hhere : back ≠ [] → placed? (c :: (front ++ cs)) = none := by
      simpa using h [] (c :: front) rfl (by simp)
    have hlater : located? (c :: back) (front ++ cs) =
        located? (front.reverse ++ c :: back) cs :=
      ih fun passed ahead hfront hahead _ =>
        h (c :: passed) ahead (by simp [hfront]) hahead (by simp)
    rw [List.cons_append, located?_cons hhere, hlater]
    simp

theorem located?_ne_none {back front : List Char} (hpassed : back ++ front ≠ [])
    (h : placed? cs ≠ none) : located? back (front ++ cs) ≠ none := by
  induction front generalizing back with
  | nil =>
    obtain ⟨⟨line, column, heading⟩, hplaced⟩ := Option.ne_none_iff_exists'.mp h
    simp [located?_of_placed? (by simpa using hpassed) hplaced]
  | cons c front ih =>
    by_cases hstop : back ≠ [] ∧ placed? (c :: (front ++ cs)) ≠ none
    · obtain ⟨⟨line, column, heading⟩, hplaced⟩ := Option.ne_none_iff_exists'.mp hstop.2
      simp [located?_of_placed? hstop.1 hplaced]
    · rw [List.cons_append, located?_cons fun hback => by simpa [hback] using hstop]
      exact ih (by simp)

/-- No file is named on just the lines that hold no mark. -/
theorem located?_eq_none_iff : located? [] cs = none ↔ ¬ HoldsMark cs := by
  constructor
  · rintro hnone ⟨front, mark, back, hfront, rfl⟩
    have hplaced : placed? (mark.chars ++ back) ≠ none := by
      simp [placed?_eq_some_iff.mpr ⟨mark, back, rfl, rfl⟩]
    rw [List.append_assoc] at hnone
    exact located?_ne_none (by simpa) hplaced hnone
  · intro hmark
    have hpassed : located? [] (cs ++ []) = located? (cs.reverse ++ []) [] := by
      refine located?_append fun passed ahead hcs _ hpassed => ?_
      refine placed?_eq_none_iff.mpr fun mark message hahead => hmark ?_
      exact ⟨passed, mark, message, hpassed, by simp [hcs, ← hahead]⟩
    rw [List.append_nil] at hpassed
    rw [hpassed, located?_nil]

instance (cs : List Char) : Decidable (HoldsMark cs) :=
  decidable_of_iff (located? [] cs ≠ none) (by rw [ne_eq, located?_eq_none_iff, not_not])

theorem Run.notMem (run : Run class_) {c : Char} (h : class_ c = false) : c ∉ run.chars :=
  fun hmem => by simp [run.inside c hmem] at h

theorem Mark.notMem_tail (mark : Mark) : '(' ∉ mark.chars.tail := by
  have hblank : Text.isBlank '(' = false := by decide
  have hgap : '(' ∉ mark.gap := fun hmem => by simp [mark.blank _ hmem] at hblank
  have hname : '(' ∉ (severityName mark.label.severity).toList := by
    cases mark.label.severity <;> decide
  have hline := mark.line.notMem (c := '(') (by decide)
  have hcolumn := mark.column.notMem (c := '(') (by decide)
  have hblanks := mark.label.gap.notMem hblank
  have hcode := mark.label.code.notMem (c := '(') (by decide)
  simp [Mark.chars, Label.chars, hgap, hname, hline, hcolumn, hblanks, hcode]

/-- A parenthesis opens a mark and does not stand in it, so no mark goes on where one opens. -/
theorem Mark.prefix_of_append_eq {mark : Mark} {front back message : List Char}
    (hfront : front ≠ []) (h : front ++ '(' :: back = mark.chars ++ message) :
    mark.chars <+: front := by
  rcases List.append_eq_append_iff.mp h with ⟨shared, hmark, hback⟩ | ⟨rest, hmark, -⟩
  · cases shared with
    | nil => exact ⟨[], by simpa using hmark⟩
    | cons c shared =>
      obtain rfl : '(' = c := by simpa using congrArg List.head? hback
      obtain ⟨first, front, rfl⟩ := List.exists_cons_of_ne_nil hfront
      exact absurd (by simp [hmark]) mark.notMem_tail
  · exact ⟨rest, hmark.symm⟩

/-- A file's name is what stands in front of the first mark. -/
theorem located?_append_mark {file : List Char} (hfile : file ≠ []) (hmark : ¬ HoldsMark file)
    (mark : Mark) (message : List Char) :
    located? [] (file ++ mark.chars ++ message) = some (mark.diagnostic file message) := by
  have hpassed : located? [] (file ++ (mark.chars ++ message)) =
      located? (file.reverse ++ []) (mark.chars ++ message) := by
    refine located?_append fun passed ahead hfront hahead hpassed => ?_
    refine placed?_eq_none_iff.mpr fun other later hother => hmark ?_
    obtain ⟨back, rfl⟩ := Mark.prefix_of_append_eq hahead hother
    exact ⟨passed, other, back, hpassed, by simp [hfront]⟩
  have hplaced : placed? (mark.chars ++ message) = some (mark.read message) :=
    placed?_eq_some_iff.mpr ⟨mark, message, rfl, rfl⟩
  rw [List.append_assoc, hpassed, located?_of_placed? (by simpa using hfile) hplaced]
  simp [Mark.diagnostic, Label.heading]

/-! ## Lines -/

/-- A line reports nothing just if it holds no mark and opens with no label. -/
theorem readLine?_eq_none_iff : readLine? cs = none ↔
    ¬ HoldsMark cs ∧ ¬ ∃ (label : Label) (message : List Char), cs = label.chars ++ message := by
  rw [← located?_eq_none_iff]
  cases hlocated : located? [] cs with
  | some diagnostic => simp [readLine?, hlocated]
  | none =>
    cases hheading : heading? cs with
    | some heading =>
      obtain ⟨label, message, hcs, -⟩ := heading?_eq_some_iff.mp hheading
      simpa [readLine?, hlocated, hheading] using ⟨label, message, hcs⟩
    | none =>
      simp only [readLine?, hlocated, hheading, Option.map_none, true_and, true_iff]
      rintro ⟨label, message, hcs⟩
      simp [heading?_eq_some_iff.mpr ⟨label, message, hcs, rfl⟩] at hheading

theorem readLine?_label {label : Label} {message : List Char}
    (hmark : ¬ HoldsMark (label.chars ++ message)) :
    readLine? (label.chars ++ message) = some (placeless (label.heading message)) := by
  rw [readLine?, located?_eq_none_iff.mpr hmark, heading?_eq_some_iff.mpr ⟨label, message, rfl, rfl⟩]
  rfl

theorem readLine?_mark {file : List Char} (hfile : file ≠ []) (hmark : ¬ HoldsMark file)
    (mark : Mark) (message : List Char) :
    readLine? (file ++ mark.chars ++ message) = some (mark.diagnostic file message) := by
  rw [readLine?, located?_append_mark hfile hmark]

end ScriptBuild.Listing
