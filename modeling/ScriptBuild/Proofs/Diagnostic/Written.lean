import ScriptBuild.Proofs.Diagnostic.Joined
import ScriptBuild.Proofs.Text.Encoding

/-!
# Listings as they are written

A listing may be written line by line: messages, with or without a place, and lines that are none,
with blanks around each of them. Reading it gives back the messages, in their order.

What may be written is not every diagnostic. Its message must be one line that neither starts nor
ends with a blank, its code a word, its numbers within 32 bits, and a file's name must hold nothing
that could be taken for the end of it. A message about no place must not look like one about a
place. And a line that is no message must be neither. Each of these is a field of `IsMessage`,
`IsLocated`, `IsPlaceless` or `IsNoise`, and an `Entry` carries the proof.

The induction is over the lines. A line ends where its newline is, so what is read of a listing is
what is read of its first line, and what is read of the rest; the last line may end without a
newline. Within a line the blanks are trimmed, and the forms of messages give the rest.

**Results.**
* `numberValue_toString`: a line or column number is read back.
* `reports_of_isLocated`, `reports_of_isPlaceless`: a written message is read back.
* `read_written`: what is read of a written listing is what was written.
-/
namespace ScriptBuild

namespace Listing

/-! ## What is written -/

/-- A message with a code and a text that can be told apart. -/
structure IsMessage (diagnostic : Diagnostic) : Prop where
  coded : diagnostic.code.toList ≠ []
  word : ∀ c ∈ diagnostic.code.toList, Text.isWordChar c = true
  oneLine : '\n' ∉ diagnostic.message.toList
  starts : ∀ c ∈ diagnostic.message.toList.head?, Text.isBlank c = false
  ends : ∀ c ∈ diagnostic.message.toList.getLast?, Text.isBlank c = false

/-- A message about a place. The name of its file is a text and holds nothing that could end it. -/
structure IsLocated (diagnostic : Diagnostic) : Prop extends IsMessage diagnostic where
  spelled : diagnostic.file = .ofText diagnostic.file.text
  named : diagnostic.file.text.toList ≠ []
  nameOneLine : '\n' ∉ diagnostic.file.text.toList
  nameStarts : ∀ c ∈ diagnostic.file.text.toList.head?, Text.isBlank c = false
  nameUnmarked : ¬ HoldsMark diagnostic.file.text.toList
  line : diagnostic.line ≤ greatestNumber
  column : diagnostic.column ≤ greatestNumber

/-- A message about no place in particular. Nothing in it looks like one. -/
structure IsPlaceless (diagnostic : Diagnostic) : Prop extends IsMessage diagnostic where
  file : diagnostic.file = ⟨[]⟩
  line : diagnostic.line = 0
  column : diagnostic.column = 0
  unmarked : ¬ HoldsMark (render diagnostic).toList

structure IsNoise (text : List Char) : Prop where
  oneLine : '\n' ∉ text
  unmarked : ¬ HoldsMark (Text.trimChars text)
  unlabelled : ¬ ∃ (label : Label) (message : List Char),
    Text.trimChars text = label.chars ++ message

/-- What stands on a line of a listing, but for the blanks around it. -/
inductive Entry
  | located (diagnostic : Diagnostic) (written : IsLocated diagnostic)
  | placeless (diagnostic : Diagnostic) (written : IsPlaceless diagnostic)
  | noise (text : List Char) (written : IsNoise text)

namespace Entry

def chars : Entry → List Char
  | .located diagnostic _ | .placeless diagnostic _ => (render diagnostic).toList
  | .noise text _ => text

def diagnostic? : Entry → Option Diagnostic
  | .located diagnostic _ | .placeless diagnostic _ => some diagnostic
  | .noise _ _ => none

end Entry

/-- A line of a listing: an entry with blanks around it. A carriage return may stand in front of the
newline that ends the line. -/
structure Line where
  before : List Char
  entry : Entry
  after : List Char
  returns : Bool
  blank : ∀ c ∈ before ++ after, Text.isBlank c = true

namespace Line

def content (line : Line) : List Char := line.before ++ line.entry.chars ++ line.after

def ending (line : Line) : List Char := if line.returns then ['\r', '\n'] else ['\n']

end Line

/-- The lines of a listing. Nothing has to end the last one. -/
def writtenChars (ended : Bool) : List Line → List Char
  | [] => []
  | [line] => line.content ++ if ended then line.ending else []
  | line :: next :: rest => line.content ++ line.ending ++ writtenChars ended (next :: rest)

def written (ended : Bool) (lines : List Line) : String := String.ofList (writtenChars ended lines)

/-! ## Numbers -/

theorem toList_toString (n : Nat) : (toString n).toList = Nat.toDigits 10 n := Nat.toList_repr

theorem isDigit_of_mem_toString {n : Nat} {c : Char} (h : c ∈ (toString n).toList) :
    c.isDigit = true :=
  Nat.isDigit_of_mem_toDigits (by decide) (by decide) (toList_toString n ▸ h)

theorem numberValue_of_digits {digits : List Char} (h : ∀ c ∈ digits, c.isDigit = true)
    (hle : Nat.ofDigitChars 10 digits 0 ≤ greatestNumber) :
    numberValue digits = Nat.ofDigitChars 10 digits 0 := by
  have hvalues : digits.mapM digitValue? = some (digits.map fun c => c.toNat - 48) := by
    clear hle
    induction digits with
    | nil => rfl
    | cons c digits ih =>
      obtain ⟨hc, hdigits⟩ := List.forall_mem_cons.mp h
      rw [List.mapM_cons, ih hdigits]
      simp [digitValue?, hc]
  have hvalue : (digits.map fun c => c.toNat - 48).foldl (fun value digit => 10 * value + digit) 0 =
      Nat.ofDigitChars 10 digits 0 := by
    rw [List.foldl_map]
    rfl
  simp [numberValue, hvalues, hvalue, hle]

theorem numberValue_toString {n : Nat} (h : n ≤ greatestNumber) :
    numberValue (toString n).toList = n := by
  have hvalue : Nat.ofDigitChars 10 (toString n).toList 0 = n := by
    rw [toList_toString, Nat.ofDigitChars_toDigits (by decide) (by decide)]
  rw [numberValue_of_digits (fun c hc => isDigit_of_mem_toString hc) (hvalue.trans_le h), hvalue]

/-! ## Messages -/

def digits (n : Nat) : Run Text.isDigit where
  chars := (toString n).toList
  nonempty := toList_toString n ▸ Nat.toDigits_ne_nil
  inside _ hc := Text.isDigit_of_ascii (isDigit_of_mem_toString hc)

theorem blank_space : ∀ c ∈ [' '], Text.isBlank c = true := by
  simpa using show Text.isBlank ' ' = true by decide

variable {diagnostic : Diagnostic}

def IsMessage.label (h : IsMessage diagnostic) : Label where
  severity := diagnostic.severity
  gap := ⟨[' '], by simp, blank_space⟩
  code := ⟨diagnostic.code.toList, h.coded, h.word⟩

def IsLocated.mark (h : IsLocated diagnostic) : Mark where
  line := digits diagnostic.line
  column := digits diagnostic.column
  gap := [' ']
  blank := blank_space
  label := h.label

theorem IsLocated.toList_render (h : IsLocated diagnostic) :
    (render diagnostic).toList =
      diagnostic.file.text.toList ++ h.mark.chars ++ ' ' :: diagnostic.message.toList := by
  have hnamed : diagnostic.file.text.isEmpty = false := by
    simpa using h.named
  simp [render, hnamed, Heading.render, Mark.chars, Label.chars, IsLocated.mark, IsMessage.label,
    digits]

theorem IsPlaceless.toList_render (h : IsPlaceless diagnostic) :
    (render diagnostic).toList = h.label.chars ++ ' ' :: diagnostic.message.toList := by
  have hfile : diagnostic.file.text = "" := congrArg Path.text h.file
  simp [render, hfile, Heading.render, Label.chars, IsMessage.label]

/-- A message's text is read back, though a blank in front of it may be trimmed with it. -/
theorem IsMessage.dropWhile_message (h : IsMessage diagnostic) :
    (Text.trimEnd (' ' :: diagnostic.message.toList)).dropWhile Text.isBlank =
      diagnostic.message.toList := by
  rw [Text.dropWhile_trimEnd, ← List.singleton_append, Text.trimChars_blank_append _ blank_space,
    Text.trimChars_of_solid h.starts h.ends]

theorem reports_of_isLocated (h : IsLocated diagnostic) :
    reports (render diagnostic).toList = [diagnostic] := by
  obtain ⟨front, hfront⟩ : ∃ front, h.mark.chars = front ++ [':'] := ⟨_, by
    rw [Mark.chars, Label.chars, ← List.append_assoc]⟩
  have htrim : Text.trimChars (render diagnostic).toList =
      diagnostic.file.text.toList ++ h.mark.chars ++
        Text.trimEnd (' ' :: diagnostic.message.toList) := by
    have hstarts : ∀ c ∈ (diagnostic.file.text.toList ++ front ++ [':']).head?,
        Text.isBlank c = false := by
      rw [List.append_assoc, List.head?_append_of_ne_nil _ h.named]
      exact h.nameStarts
    have hkept := Text.trimChars_append hstarts (by decide) (' ' :: diagnostic.message.toList)
    rw [h.toList_render, hfront]
    simpa using hkept
  rw [reports, htrim, readLine?_mark h.named h.nameUnmarked]
  have hread : h.mark.diagnostic diagnostic.file.text.toList
      (Text.trimEnd (' ' :: diagnostic.message.toList)) = diagnostic := by
    have hline : numberValue h.mark.line.chars = diagnostic.line := numberValue_toString h.line
    have hcolumn : numberValue h.mark.column.chars = diagnostic.column :=
      numberValue_toString h.column
    rw [Mark.diagnostic, hline, hcolumn, h.dropWhile_message]
    have hfile : (⟨diagnostic.file.text⟩ : Path) = diagnostic.file := h.spelled.symm
    simp [IsLocated.mark, IsMessage.label, hfile]
  rw [hread]
  rfl

theorem reports_of_isPlaceless (h : IsPlaceless diagnostic) :
    reports (render diagnostic).toList = [diagnostic] := by
  have htrim : Text.trimChars (render diagnostic).toList =
      h.label.chars ++ Text.trimEnd (' ' :: diagnostic.message.toList) := by
    have hkept := Text.trimChars_append h.label.isBlank_head (by decide)
      (' ' :: diagnostic.message.toList)
    rw [h.toList_render]
    simpa [Label.chars] using hkept
  have hmark : ¬ HoldsMark (h.label.chars ++ Text.trimEnd (' ' :: diagnostic.message.toList)) := by
    obtain ⟨tail, htail, -⟩ := Text.exists_trimEnd_append (' ' :: diagnostic.message.toList)
    have hunmarked := h.unmarked
    rw [h.toList_render, htail, ← List.append_assoc] at hunmarked
    exact fun hheld => hunmarked (hheld.append tail)
  rw [reports, htrim, readLine?_label hmark]
  have hread : placeless (h.label.heading (Text.trimEnd (' ' :: diagnostic.message.toList))) =
      diagnostic := by
    obtain ⟨⟨file⟩, line, column, code, message, severity⟩ := diagnostic
    obtain rfl : file = [] := congrArg Path.octets h.file
    obtain rfl : line = 0 := h.line
    obtain rfl : column = 0 := h.column
    have hfile : Text.Utf8.encode "" = [] := rfl
    simp [placeless, Label.heading, h.dropWhile_message, IsMessage.label, hfile]
  rw [hread]
  rfl

theorem Entry.reports_chars (entry : Entry) : reports entry.chars = entry.diagnostic?.toList := by
  cases entry with
  | located diagnostic written => exact reports_of_isLocated written
  | placeless diagnostic written => exact reports_of_isPlaceless written
  | noise text written =>
    rw [reports, chars, readLine?_eq_none_iff.mpr ⟨written.unmarked, written.unlabelled⟩]
    rfl

/-! ## Lines -/

theorem IsMessage.newline_notMem (h : IsMessage diagnostic) :
    '\n' ∉ h.label.chars ++ ' ' :: diagnostic.message.toList := by
  have hname : '\n' ∉ (severityName diagnostic.severity).toList := by
    cases diagnostic.severity <;> decide
  have hcode : '\n' ∉ diagnostic.code.toList := h.label.code.notMem (by decide)
  simp [Label.chars, IsMessage.label, hname, hcode, h.oneLine]

theorem IsLocated.newline_notMem (h : IsLocated diagnostic) :
    '\n' ∉ diagnostic.file.text.toList ++ h.mark.chars ++ ' ' :: diagnostic.message.toList := by
  have hline : '\n' ∉ h.mark.line.chars := h.mark.line.notMem (by decide)
  have hcolumn : '\n' ∉ h.mark.column.chars := h.mark.column.notMem (by decide)
  have hgap : '\n' ∉ h.mark.gap := by simp [IsLocated.mark]
  have hlabel : '\n' ∉ h.mark.label.chars := fun hmem =>
    h.toIsMessage.newline_notMem (List.mem_append_left _ hmem)
  simp [Mark.chars, h.nameOneLine, hline, hcolumn, hgap, hlabel, h.oneLine]

theorem Entry.newline_notMem (entry : Entry) : '\n' ∉ entry.chars := by
  cases entry with
  | located diagnostic written =>
    rw [chars, written.toList_render]
    exact written.newline_notMem
  | placeless diagnostic written =>
    rw [chars, written.toList_render]
    exact written.newline_notMem
  | noise text written => exact written.oneLine

theorem read_of_oneLine {cs : List Char} (h : '\n' ∉ cs) : read (String.ofList cs) = reports cs := by
  rw [read_eq_flatMap, String.toList_ofList, Text.cutAll_eq_splitOn, List.splitOn_eq_singleton h,
    List.flatMap_singleton]

theorem read_of_blank {cs : List Char} (blank : ∀ c ∈ cs, Text.isBlank c = true) :
    read (String.ofList cs) = [] := by
  rw [read_eq_flatMap, String.toList_ofList, List.flatMap_eq_nil_iff]
  exact fun part hpart => reports_of_blank fun c hc => blank c (Text.mem_of_mem_cutAll hpart hc)

theorem read_append_blank (cs : List Char) {back : List Char}
    (blank : ∀ c ∈ back, Text.isBlank c = true) :
    read (String.ofList (cs ++ back)) = read (String.ofList cs) := by
  have hfirst : ∀ c ∈ Text.firstLine (String.ofList back), Text.isBlank c = true := fun c hc =>
    blank c (by simpa using Text.mem_of_mem_cutAll (Text.firstLine_mem_cutAll _) hc)
  rw [String.ofList_append, (read_append_iff _ _).mpr (reports_append_of_blank (.inr hfirst)),
    read_of_blank blank, List.append_nil]

theorem read_blank_append {front : List Char} (blank : ∀ c ∈ front, Text.isBlank c = true)
    (cs : List Char) : read (String.ofList (front ++ cs)) = read (String.ofList cs) := by
  have hopen : ∀ c ∈ Text.openLine (String.ofList front), Text.isBlank c = true := fun c hc =>
    blank c (by simpa using Text.mem_of_mem_cutAll (Text.openLine_mem_cutAll _) hc)
  rw [String.ofList_append, (read_append_iff _ _).mpr (reports_append_of_blank (.inl hopen)),
    read_of_blank blank, List.nil_append]

/-- What stands in front of a newline and what stands behind it are read each for itself. -/
theorem read_append_newline (cs rest : List Char) :
    read (String.ofList (cs ++ '\n' :: rest)) =
      read (String.ofList cs) ++ read (String.ofList rest) := by
  simp only [read_eq_flatMap, String.toList_ofList, Text.cutAll_eq_splitOn,
    List.splitOn_append_cons_self, List.flatMap_append]

namespace Line

theorem read_content (line : Line) :
    read (String.ofList line.content) = line.entry.diagnostic?.toList := by
  obtain ⟨hbefore, hafter⟩ := List.forall_mem_append.mp line.blank
  rw [content, read_append_blank _ hafter, read_blank_append hbefore,
    read_of_oneLine line.entry.newline_notMem, line.entry.reports_chars]

/-- A carriage return goes with the blanks at the end of the line. -/
theorem exists_ending (line : Line) : ∃ returns : List Char,
    line.ending = returns ++ ['\n'] ∧ ∀ c ∈ returns, Text.isBlank c = true := by
  unfold ending
  cases line.returns with
  | false => exact ⟨[], rfl, by simp⟩
  | true => exact ⟨['\r'], rfl, by simp [Text.isBlank_return]⟩

theorem read_append (line : Line) (rest : List Char) :
    read (String.ofList (line.content ++ line.ending ++ rest)) =
      line.entry.diagnostic?.toList ++ read (String.ofList rest) := by
  obtain ⟨returns, hending, hblank⟩ := line.exists_ending
  have hcut : line.content ++ line.ending ++ rest = (line.content ++ returns) ++ '\n' :: rest := by
    simp [hending]
  rw [hcut, read_append_newline, read_append_blank _ hblank, line.read_content]

end Line

/-- What is read of a written listing is what was written: every message with its place, code, text
and severity, in their order, and nothing else. -/
theorem read_written (ended : Bool) (lines : List Line) :
    read (written ended lines) = lines.filterMap fun line => line.entry.diagnostic? := by
  have hnil : read (String.ofList []) = [] := read_of_blank (by simp)
  have hcons : ∀ (line : Line) (rest : List Line),
      (line :: rest).filterMap (fun line => line.entry.diagnostic?) =
        line.entry.diagnostic?.toList ++ rest.filterMap fun line => line.entry.diagnostic? := by
    intro line rest
    cases hline : line.entry.diagnostic? <;> simp [hline]
  unfold written
  fun_induction writtenChars ended lines with
  | case1 => exact hnil
  | case2 line =>
    rw [hcons, List.filterMap_nil, List.append_nil]
    cases ended with
    | false => simpa using line.read_content
    | true => simpa [hnil] using line.read_append []
  | case3 line next rest ih => rw [line.read_append, ih, ← hcons]

/-! ## A listing that misleads -/

/-- The name of a file opens like a message, and its message goes on like one. -/
def misleading : Diagnostic :=
  ⟨⟨"(3,4): error X: (1,2).cs"⟩, 4, 13, "CS0103", "see (1,2): error X: y", .error⟩

def bare : Diagnostic := ⟨⟨""⟩, 0, 0, "CS0006", "", .warning⟩

theorem isLocated_misleading : IsLocated misleading where
  spelled := by simp [misleading, Path.ofText, Path.text]
  coded := by decide
  word := List.all_eq_true.mp (by decide)
  oneLine := by decide
  starts := by simpa [misleading] using show Text.isBlank 's' = false by decide
  ends := by simpa [misleading] using show Text.isBlank 'y' = false by decide
  named := by decide
  nameOneLine := by decide
  nameStarts := by
    simpa [misleading, Path.text] using show Text.isBlank '(' = false by decide
  nameUnmarked := by decide
  line := by decide
  column := by decide

theorem isPlaceless_bare : IsPlaceless bare where
  coded := by decide
  word := List.all_eq_true.mp (by decide)
  oneLine := by decide
  starts := by simp [bare]
  ends := by simp [bare]
  file := rfl
  line := rfl
  column := rfl
  unmarked := by decide

theorem isNoise_summary : IsNoise "Compilation failed: 1 error(s)".toList where
  oneLine := by decide
  unmarked := by decide
  unlabelled := (readLine?_eq_none_iff.mp (by cbv)).2

/-- Three lines, of which the first ends in a carriage return and a newline. -/
def misleadingLines : List Line :=
  [⟨['\t'], .located misleading isLocated_misleading, [' '], true, List.all_eq_true.mp (by decide)⟩,
    ⟨[], .placeless bare isPlaceless_bare, [], false, by simp⟩,
    ⟨[], .noise _ isNoise_summary, [], false, by simp⟩]

theorem render_misleading :
    render misleading = "(3,4): error X: (1,2).cs(4,13): error CS0103: see (1,2): error X: y" := by
  have hline : toString 4 = "4" := by decide
  have hcolumn : toString 13 = "13" := by decide
  simp only [render, misleading, Heading.render, severityName, hline, hcolumn]
  decide

/-- A file's name ends in front of its own mark, not in front of what looks like one. -/
theorem read_written_misleading :
    read ("\t(3,4): error X: (1,2).cs(4,13): error CS0103: see (1,2): error X: y \r\n" ++
      "warning CS0006: \nCompilation failed: 1 error(s)") = [misleading, bare] := by
  have hwritten : written false misleadingLines =
      "\t(3,4): error X: (1,2).cs(4,13): error CS0103: see (1,2): error X: y \r\n" ++
        "warning CS0006: \nCompilation failed: 1 error(s)" := by
    have hbare : render bare = "warning CS0006: " := by decide
    rw [← String.toList_inj, written, String.toList_ofList, String.toList_append]
    simp [misleadingLines, writtenChars, Line.content, Line.ending, Entry.chars,
      render_misleading, hbare]
  rw [← hwritten, read_written]
  rfl

end Listing

end ScriptBuild
