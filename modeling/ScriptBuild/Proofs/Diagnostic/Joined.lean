import ScriptBuild.Proofs.Diagnostic.Forms
import ScriptBuild.Proofs.Text.Trimming

/-!
# Two texts as one listing

A listing reports what its lines report, each for itself. Where two texts are put together with no
newline between them, the last line of the one and the first line of the other are one line; every
other line of either is read as it is.

The one line that can go wrong is the last of the first text, if no newline ends it. If that or the
first line of the second text is blank, nothing is lost either. Otherwise it depends on what the two
parts say together, and nothing simpler than that is equivalent: two messages may become one, a
message may gain text, and two lines that are no messages may make one.

A listing is cut at newlines only. The carriage return in front of one goes with the blanks that are
trimmed, so a text with either kind of ending reads the same.

**Results.**
* `read_eq_flatMap`: a listing reports what its lines report.
* `read_append`, `read_append_iff`: what two texts report as one listing, and when that is what they
  report each for itself.
* `message_sublist`: a message holds nothing but what the listing holds, in the same order.
-/
namespace ScriptBuild

namespace Text

/-- The lines that a newline ends, without it. -/
def endedLines (text : String) : List (List Char) := (cutAll '\n' text.toList).dropLast

/-- What stands behind the last newline. -/
def openLine (text : String) : List Char := (cutAll '\n' text.toList).getLastD []

def firstLine (text : String) : List Char := (cutAll '\n' text.toList).headD []

def laterLines (text : String) : List (List Char) := (cutAll '\n' text.toList).tail

theorem firstLine_mem_cutAll (text : String) : firstLine text ∈ cutAll '\n' text.toList := by
  rw [firstLine]
  cases hparts : cutAll '\n' text.toList with
  | nil => exact absurd hparts (cutAll_ne_nil _ _)
  | cons first later => exact List.mem_cons_self

theorem openLine_mem_cutAll (text : String) : openLine text ∈ cutAll '\n' text.toList := by
  rw [openLine, List.getLastD_eq_getLast?, List.getLast?_eq_some_getLast (cutAll_ne_nil _ _)]
  exact List.getLast_mem _

end Text

namespace Listing

/-- What a line reports: one diagnostic or none. -/
def reports (line : List Char) : List Diagnostic := (readLine? (Text.trimChars line)).toList

theorem reports_nil : reports [] = [] := rfl

theorem reports_of_blank {line : List Char} (blank : ∀ c ∈ line, Text.isBlank c = true) :
    reports line = [] := by
  have hempty : Text.trimChars line = [] := Text.trimChars_append_blank [] blank
  rw [reports, hempty]
  rfl

theorem flatMap_withNewlines (parts : List (List Char)) :
    (Text.withNewlines parts).flatMap reports = parts.flatMap reports := by
  induction parts with
  | nil => rfl
  | cons part rest ih =>
    cases rest with
    | nil =>
      unfold Text.withNewlines
      split
      · rename_i hempty
        simp [hempty, reports_nil]
      · rfl
    | cons next rest =>
      have hline : reports (part ++ ['\n']) = reports part := by
        rw [reports, Text.trimChars_append_blank _ (by simp [Text.isBlank_newline]), reports]
      rw [Text.withNewlines, List.flatMap_cons, List.flatMap_cons, ih, hline]

theorem read_eq_flatMap (listing : String) :
    read listing = (Text.cutAll '\n' listing.toList).flatMap reports := by
  rw [← flatMap_withNewlines, ← Text.pieces_eq_withNewlines, read, Text.lineList,
    List.filterMap_map]
  induction Text.pieces listing.toList with
  | nil => rfl
  | cons piece rest ih =>
    rw [List.flatMap_cons, ← ih, reports]
    cases hline : readLine? (Text.trimChars piece) with
    | none => simp [Text.trimChars_dropTerminator, hline]
    | some diagnostic => simp [Text.trimChars_dropTerminator, hline]

theorem read_eq_ended (text : String) :
    read text = (Text.endedLines text).flatMap reports ++ reports (Text.openLine text) := by
  rw [read_eq_flatMap, Text.endedLines, Text.openLine]
  rcases List.eq_nil_or_concat (Text.cutAll '\n' text.toList) with hnil | ⟨front, last, hparts⟩
  · exact absurd hnil (Text.cutAll_ne_nil _ _)
  · simp [hparts]

theorem read_eq_first (text : String) :
    read text = reports (Text.firstLine text) ++ (Text.laterLines text).flatMap reports := by
  rw [read_eq_flatMap, Text.firstLine, Text.laterLines]
  cases hparts : Text.cutAll '\n' text.toList with
  | nil => exact absurd hparts (Text.cutAll_ne_nil _ _)
  | cons first later => simp

/-- Of two texts as one listing, the line in which they meet is read as one. -/
theorem read_append (out err : String) :
    read (out ++ err) =
      (Text.endedLines out).flatMap reports ++ reports (Text.openLine out ++ Text.firstLine err) ++
        (Text.laterLines err).flatMap reports := by
  rw [read_eq_flatMap, String.toList_append, Text.cutAll_append]
  simp [Text.endedLines, Text.openLine, Text.firstLine, Text.laterLines]

/-- Two texts report as one listing what each reports for itself, just if the line in which they
meet does. -/
theorem read_append_iff (out err : String) :
    read (out ++ err) = read out ++ read err ↔
      reports (Text.openLine out ++ Text.firstLine err) =
        reports (Text.openLine out) ++ reports (Text.firstLine err) := by
  rw [read_append, read_eq_ended out, read_eq_first err]
  simp only [List.append_assoc, List.append_cancel_left_eq]
  rw [← List.append_assoc (reports (Text.openLine out)), List.append_cancel_right_eq]

/-- Blanks on one side of the line in which two texts meet leave the other side as it is. -/
theorem reports_append_of_blank {last first : List Char}
    (blank : (∀ c ∈ last, Text.isBlank c = true) ∨ ∀ c ∈ first, Text.isBlank c = true) :
    reports (last ++ first) = reports last ++ reports first := by
  rcases blank with hlast | hfirst
  · rw [reports_of_blank hlast, reports, Text.trimChars_blank_append _ hlast, reports,
      List.nil_append]
  · rw [reports_of_blank hfirst, reports, Text.trimChars_append_blank _ hfirst, reports,
      List.append_nil]

/-! ## What a message is made of -/

variable {cs : List Char} {diagnostic : Diagnostic}

theorem dropWhile_message (message : List Char) :
    (String.ofList (message.dropWhile Text.isBlank)).toList.Sublist message := by
  rw [String.toList_ofList]
  exact List.dropWhile_sublist _

theorem heading?_message {heading : Heading} (h : heading? cs = some heading) :
    heading.message.toList.Sublist cs := by
  obtain ⟨label, message, rfl, rfl⟩ := heading?_eq_some_iff.mp h
  exact (dropWhile_message message).trans (List.sublist_append_right _ _)

theorem placed?_message {line column : Nat} {heading : Heading}
    (h : placed? cs = some (line, column, heading)) : heading.message.toList.Sublist cs := by
  obtain ⟨mark, message, rfl, hread⟩ := placed?_eq_some_iff.mp h
  obtain ⟨-, -, rfl⟩ : _ ∧ _ ∧ mark.label.heading message = heading := by
    simpa [Mark.read] using hread
  exact (dropWhile_message message).trans (List.sublist_append_right _ _)

theorem located?_message {back : List Char} (h : located? back cs = some diagnostic) :
    diagnostic.message.toList.Sublist cs := by
  fun_induction located? back cs with
  | case1 back cs line column heading hplaced =>
    cases h
    split at hplaced
    · cases hplaced
    · exact placed?_message hplaced
  | case2 back hplaced => cases h
  | case3 back c cs hplaced ih => exact (ih h).cons c

theorem readLine?_message (h : readLine? cs = some diagnostic) :
    diagnostic.message.toList.Sublist cs := by
  unfold readLine? at h
  split at h
  · rename_i found hlocated
    cases h
    exact located?_message hlocated
  · obtain ⟨heading, hheading, rfl⟩ : ∃ heading, heading? cs = some heading ∧
        placeless heading = diagnostic := by simpa using h
    exact heading?_message hheading

theorem message_sublist {listing : String} (h : diagnostic ∈ read listing) :
    diagnostic.message.toList.Sublist listing.toList := by
  obtain ⟨line, hline, hread⟩ := List.mem_filterMap.mp h
  obtain ⟨piece, hpiece, rfl⟩ := List.mem_map.mp hline
  rw [Text.trimChars_dropTerminator] at hread
  calc
    List.Sublist _ (Text.trimChars piece) := readLine?_message hread
    List.Sublist _ piece := Text.trimChars_sublist piece
    List.Sublist _ (Text.pieces listing.toList).flatten := List.sublist_flatten_of_mem hpiece
    _ = listing.toList := Text.flatten_pieces _

end Listing

end ScriptBuild
