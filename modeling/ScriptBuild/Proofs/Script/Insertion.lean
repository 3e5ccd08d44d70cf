import ScriptBuild.Proofs.FileSystem.Canonical
import ScriptBuild.Proofs.Text.Encoding
import ScriptBuild.Proofs.Text.Trimming
import ScriptBuild.Script.Wrapping

/-!
# What wrapping puts into a text

Wrapping puts two lines into a text and changes nothing else: the opening line of a frame in front
of the first body line, and the closing one behind the last line. The opening line is none of a
header, so the unit has the header of its text, also once it has been written and read back.

Where the opening line goes is where the header ends, and the header is found by lines of the text
as they are. Line endings are made newlines in the unit. `edited?` describes this as cutting a list
of lines and putting two in, without a loop over a buffer, and could fail if there were no such
place; that it never does is the first result.

The opening line of either frame is a body line, and this is what stops the header of the unit at
the same line. For reading back what was written, the text must not start with a byte order mark,
since one is dropped in reading.

**Results.**
* `edited?_eq_some`: the frame can always be put in place, and that gives the wrapped text.
* `cutAll_around`: the lines of a wrapped text.
* `scan_around`: a wrapped text has the header of the text.
* `Source.decode_encode`: a text that starts with no byte order mark is read from its octets as it
  is.
* `normalize_inserts`: what is put into a text in each mode.
-/
namespace ScriptBuild

namespace Text

def betweenNewlines (text : String) : List String :=
  (cutAll '\n' text.toList).map String.ofList

theorem toList_joinLines (lines : List String) :
    (joinLines lines).toList = ['\n'].intercalate (lines.map String.toList) := by
  rw [joinLines, String.toList_intercalate]
  rfl

theorem cutAll_joinLines {lines : List String} (nonempty : lines ≠ [])
    (oneLine : ∀ line ∈ lines, '\n' ∉ line.toList) :
    cutAll '\n' (joinLines lines).toList = lines.map String.toList := by
  rw [cutAll_eq_splitOn, toList_joinLines,
    List.splitOn_intercalate _ (by simpa using oneLine) (by simpa using nonempty)]

/-- Two lines are put together as one line that holds a newline. -/
theorem joinLines_append_cons (front back : List String) (upper lower : String) :
    joinLines (front ++ (upper ++ "\n" ++ lower) :: back) =
      joinLines (front ++ upper :: lower :: back) := by
  have hback :
      joinLines ((upper ++ "\n" ++ lower) :: back) = joinLines (upper :: lower :: back) := by
    rw [joinLines, joinLines, String.intercalate_cons_append, String.intercalate_cons_cons]
  cases front with
  | nil => exact hback
  | cons line front =>
    rw [joinLines, joinLines, String.intercalate_append_of_ne_nil (by simp) (by simp),
      String.intercalate_append_of_ne_nil (by simp) (by simp)]
    exact congrArg _ hback

/-- A line put together with the last one is a line of its own behind it. -/
theorem joinLines_modifyLast {lines : List String} (nonempty : lines ≠ []) (later : String) :
    joinLines (lines.modifyLast (· ++ "\n" ++ later)) = joinLines (lines ++ [later]) := by
  obtain ⟨upper, last, rfl⟩ := (List.eq_nil_or_concat lines).resolve_left nonempty
  rw [List.concat_eq_append, List.modifyLast_concat, joinLines_append_cons, List.append_assoc,
    List.singleton_append]

theorem newline_notMem_of_mem_lines {text line : String} (h : line ∈ lines text) :
    '\n' ∉ line.toList := by
  obtain ⟨cs, hcs, rfl⟩ := List.mem_map.mp h
  rw [String.toList_ofList]
  exact newline_notMem_of_mem_lineList hcs

/-- Lines are trimmed as parts are, unless the last part is left out. -/
theorem map_trimChars_lineList {cs : List Char} (h : (cutAll '\n' cs).getLast? ≠ some []) :
    (lineList cs).map trimChars = (cutAll '\n' cs).map trimChars := by
  rw [lineList, List.map_map, pieces_eq_withNewlines]
  generalize cutAll '\n' cs = parts at h
  induction parts with
  | nil => rfl
  | cons part rest ih =>
    cases rest with
    | nil =>
      have hpart : part ≠ [] := by simpa using h
      simp [withNewlines, hpart, trimChars_dropTerminator]
    | cons next rest =>
      rw [withNewlines, List.map_cons, List.map_cons, ih (by simpa using h), Function.comp_apply,
        trimChars_dropTerminator, trimChars_append_blank _ (by simp [isBlank_newline])]

end Text

/-! ## Names -/

namespace ClassName

theorem newline_ne_letter {digit : Nat} (h : digit < 52) : '\n' ≠ Text.Letters.letter digit := by
  have hall : ∀ digit : Fin 52, '\n' ≠ Text.Letters.letter digit.val := by decide
  exact hall ⟨digit, h⟩

theorem newline_notMem_backwards (count value : Nat) :
    '\n' ∉ Text.Letters.backwards count value := by
  induction count generalizing value with
  | zero => simp [Text.Letters.backwards]
  | succ count ih =>
    simp [Text.Letters.backwards, newline_ne_letter (Nat.mod_lt value (by decide : 0 < 52)), ih]

theorem newline_notMem_fresh (supply : Supply) : '\n' ∉ supply.fresh.1.toList := by
  have hspell : ∀ value, '\n' ∉ (spell value).toList := fun value => by
    simp [spell, Text.Letters.spell, newline_notMem_backwards]
  cases supply with
  | counting next => exact hspell next
  | drawn pool reserve =>
    rw [Supply.fresh]
    split
    · exact hspell reserve
    · simp only [String.toList_ofList, List.mem_map, not_exists, not_and]
      exact fun octet _ heq => newline_ne_letter (Nat.mod_lt octet.toNat (by decide)) heq.symm

end ClassName

/-! ## Frames -/

namespace Wrapping

variable {frame : String × String} {name text : String}

/-- Two lines that may be put around a body: the first is none of a header, nor does it start with
a byte order mark, and the last is not empty. -/
structure IsFrame (frame : String × String) : Prop where
  opening : '\n' ∉ frame.1.toList
  closing : '\n' ∉ frame.2.toList
  opensBody : Header.admits (Text.trimChars frame.1.toList) = false
  opensPlain : ∀ cs, frame.1.toList ≠ '\uFEFF' :: cs
  closes : frame.2 ≠ ""

/-- An opening line starts with a letter that starts no line of a header. -/
theorem isFrame_of_words {after close : String} (hname : '\n' ∉ name.toList)
    (hafter : '\n' ∉ after.toList) (hclose : '\n' ∉ close.toList) (hcloses : close ≠ "") :
    IsFrame ("public static class " ++ name ++ after, close) := by
  have hword : "public static class ".toList = 'p' :: "ublic static class ".toList := rfl
  have hchars : ("public static class " ++ name ++ after).toList =
      'p' :: ("ublic static class ".toList ++ (name.toList ++ after.toList)) := by
    rw [String.toList_append, String.toList_append, hword]
    simp only [List.cons_append, List.append_assoc]
  refine ⟨?_, hclose, ?_, ?_, hcloses⟩
  · rw [hchars]
    simp [hname, hafter]
  · rw [hchars, Text.trimChars_cons (by decide)]
    rfl
  · simp [hchars]

theorem isFrame_simple (h : '\n' ∉ name.toList) : IsFrame (simpleFrame name) :=
  isFrame_of_words h (by decide) (by decide) (by decide)

theorem isFrame_single (h : '\n' ∉ name.toList) : IsFrame (singleFrame name) :=
  isFrame_of_words h (by decide) (by decide) (by decide)

/-! ## Putting a frame in place -/

def head (text : String) : List String := (Text.lines text).take (Header.scan text).length

/-- The lines of a text, with an empty one behind them if they are all header. -/
def padded (text : String) : List String :=
  if (Text.lines text).length ≤ (Header.scan text).length then Text.lines text ++ [""]
  else Text.lines text

/-- The text with a frame put in place: the opening line in front of the first body line, the
closing line behind the last line. There is no such text if there is no body line. -/
def edited? (frame : String × String) (text : String) : Option String :=
  let lines := padded text
  let start := (Header.scan text).length
  lines[start]?.map fun first =>
    Text.joinLines
      ((lines.set start (frame.1 ++ "\n" ++ first)).modifyLast (· ++ "\n" ++ frame.2))

theorem around_eq (frame : String × String) (text : String) :
    around frame text = Text.joinLines (head text ++ [frame.1] ++ body text ++ [frame.2]) := rfl

theorem length_head (text : String) : (head text).length = (Header.scan text).length := by
  rw [head, List.length_take, Nat.min_eq_left (Header.scan_length_le text)]

theorem body_ne_nil (text : String) : body text ≠ [] := by
  unfold body
  split
  · simp
  · assumption

theorem body_of_lt (h : (Header.scan text).length < (Text.lines text).length) :
    body text = (Text.lines text).drop (Header.scan text).length := by
  unfold body
  split
  · rename_i hnone
    rw [List.drop_eq_nil_iff] at hnone
    omega
  · rfl

theorem padded_eq (text : String) : padded text = head text ++ body text := by
  unfold padded
  split
  · rename_i hlines
    rw [head, List.take_of_length_le hlines, body, List.drop_eq_nil_of_le hlines]
  · rename_i hlines
    rw [body_of_lt (Nat.not_le.mp hlines), head, List.take_append_drop]

/-- The frame can always be put in place, and that gives the wrapped text. -/
theorem edited?_eq_some (frame : String × String) (text : String) :
    edited? frame text = some (around frame text) := by
  obtain ⟨first, later, hbody⟩ := List.exists_cons_of_ne_nil (body_ne_nil text)
  have hpadded : padded text = head text ++ first :: later := by rw [padded_eq, hbody]
  have hfirst : (padded text)[(Header.scan text).length]? = some first := by
    simp [hpadded, ← length_head]
  have hset : (padded text).set (Header.scan text).length (frame.1 ++ "\n" ++ first) =
      head text ++ (frame.1 ++ "\n" ++ first) :: later := by
    simp [hpadded, ← length_head]
  simp only [edited?, hfirst, Option.map_some, hset, Option.some.injEq]
  rw [Text.joinLines_modifyLast (by simp), List.append_assoc, List.cons_append,
    Text.joinLines_append_cons, around_eq, hbody]
  simp

/-! ## Lines and header of a wrapped text -/

theorem cutAll_around (h : IsFrame frame) (text : String) :
    Text.cutAll '\n' (around frame text).toList =
      (head text ++ [frame.1] ++ body text ++ [frame.2]).map String.toList := by
  have hbody : ∀ line ∈ body text, '\n' ∉ line.toList := by
    intro line hline
    unfold body at hline
    split at hline
    · obtain rfl := List.mem_singleton.mp hline
      simp
    · exact Text.newline_notMem_of_mem_lines (List.mem_of_mem_drop hline)
  rw [around_eq]
  refine Text.cutAll_joinLines (by simp) fun line hline => ?_
  simp only [List.mem_append, List.mem_singleton] at hline
  rcases hline with ((hline | rfl) | hline) | rfl
  · exact Text.newline_notMem_of_mem_lines (List.mem_of_mem_take hline)
  · exact h.opening
  · exact hbody line hline
  · exact h.closing

theorem map_trimChars_head (text : String) :
    (head text).map (fun line => Text.trimChars line.toList) = Header.scanChars text.toList := by
  have hprefix := List.takeWhile_prefix Header.admits
    (l := (Text.lineList text.toList).map Text.trimChars)
  have hlength : (Header.scan text).length = (Header.scanChars text.toList).length :=
    List.length_map ..
  rw [Header.scanChars] at hlength ⊢
  conv_rhs => rw [List.prefix_iff_eq_take.mp hprefix]
  simp [head, hlength, Text.lines, List.map_take, Function.comp_def]

/-- The opening line ends the header, and the lines in front of it are those of the text. -/
theorem scan_around (h : IsFrame frame) (text : String) :
    Header.scan (around frame text) = Header.scan text := by
  have hcut := cutAll_around h text
  have hlast : (Text.cutAll '\n' (around frame text).toList).getLast? ≠ some [] := by
    rw [hcut, List.map_append, List.map_singleton, List.getLast?_concat]
    simpa using h.closes
  have hadmitted : ∀ line ∈ Header.scanChars text.toList, Header.admits line = true :=
    fun line hline => List.mem_takeWhile_imp hline
  rw [Header.scan, Header.scan, Header.scanChars, Text.map_trimChars_lineList hlast, hcut,
    List.map_map, List.append_assoc, List.append_assoc, List.map_append]
  change ((_ ++ Text.trimChars frame.1.toList :: _).takeWhile Header.admits).map _ = _
  rw [Function.comp_def, map_trimChars_head, List.takeWhile_append_of_pos hadmitted,
    List.takeWhile_cons_of_neg (by simp [h.opensBody]), List.append_nil]

end Wrapping

/-! ## Written and read back -/

/-- A byte order mark at the start of a text is part of its first line, which is none of a header
then. -/
theorem Header.scan_of_mark {text : String} {cs : List Char} (h : text.toList = '\uFEFF' :: cs) :
    scan text = [] := by
  obtain ⟨piece, later, hpieces⟩ :
      ∃ piece later, Text.pieces ('\uFEFF' :: cs) = ('\uFEFF' :: piece) :: later := by
    rw [Text.pieces_cons]
    cases Text.pieces cs with
    | nil => exact ⟨[], [], rfl⟩
    | cons piece later => exact ⟨piece, later, rfl⟩
  have hbody : admits (Text.trimChars (Text.dropTerminator ('\uFEFF' :: piece))) = false := by
    rw [Text.trimChars_dropTerminator, Text.trimChars_cons (by decide)]
    rfl
  rw [scan, h, scanChars, Text.lineList, hpieces, List.map_cons, List.map_cons,
    List.takeWhile_cons_of_neg (by simp [hbody]), List.map_nil]

/-- A text that starts with no byte order mark is read from its octets as it is. -/
theorem Source.decode_encode {text : String} (h : ∀ cs, text.toList ≠ '\uFEFF' :: cs) :
    decode (Text.Utf8.encode text) = text := by
  have hkept : dropMark text.toList = text.toList := by
    unfold dropMark
    split
    · rename_i cs hmark
      exact absurd hmark (h cs)
    · rfl
  rw [decode, Text.Utf8.encode, Text.Utf8.lossyChars_encodeChars, hkept, String.ofList_toList]

namespace Wrapping

variable {frame : String × String} {text : String}

theorem around_ne_mark (h : IsFrame frame) (text : String) (cs : List Char) :
    (around frame text).toList ≠ '\uFEFF' :: cs := by
  intro hmark
  -- Such a text has no header, so the opening line is the first.
  have hscan : Header.scan text = [] := by rw [← scan_around h, Header.scan_of_mark hmark]
  have hhead : head text = [] := by rw [head, hscan, List.length_nil, List.take_zero]
  obtain ⟨first, later, hbody⟩ := List.exists_cons_of_ne_nil (body_ne_nil text)
  have haround : (around frame text).toList =
      frame.1.toList ++ '\n' :: (Text.joinLines (first :: later ++ [frame.2])).toList := by
    rw [around_eq, hhead, hbody]
    simp only [List.nil_append, List.cons_append, Text.joinLines, String.intercalate_cons_cons,
      String.toList_append]
    simp
  rw [haround] at hmark
  cases hopening : frame.1.toList with
  | nil => simp [hopening] at hmark
  | cons c rest =>
    obtain ⟨rfl, -⟩ : c = '\uFEFF' ∧ _ := by simpa [hopening] using hmark
    exact h.opensPlain rest hopening

/-- A text that declares another mode than the one it would have anyway has a header. -/
theorem scan_decode_encode_of_declared {file : Path}
    (declared : Mode.declaredFrom file 1 (Header.scan text) = .ok .complex) :
    Header.scan (Source.decode (Text.Utf8.encode text)) = Header.scan text := by
  rw [Source.decode_encode]
  intro cs hmark
  rw [Header.scan_of_mark hmark] at declared
  cases declared

/-! ## What is put into a text -/

/-- A unit is a text with a frame put into it, and nothing else done to it. -/
structure Inserts (frame : String × String) (text unit : String) : Prop where
  /-- Putting the frame in place stays within the lines, and gives the unit. -/
  edited : edited? frame text = some unit
  /-- Cut at its newlines, the unit is header, opening line, body and closing line. -/
  lines : Text.betweenNewlines unit = head text ++ [frame.1] ++ body text ++ [frame.2]
  /-- A header line keeps its number. -/
  header : ∀ index < (Header.scan text).length,
    (Text.betweenNewlines unit)[index]? = (Text.lines text)[index]?
  /-- A body line moves by one. -/
  moved : ∀ index, (Header.scan text).length ≤ index → index < (Text.lines text).length →
    (Text.betweenNewlines unit)[index + 1]? = (Text.lines text)[index]?

theorem inserts_around (h : IsFrame frame) (text : String) :
    Inserts frame text (around frame text) := by
  have hlines : Text.betweenNewlines (around frame text) =
      head text ++ [frame.1] ++ body text ++ [frame.2] := by
    rw [Text.betweenNewlines, cutAll_around h, List.map_map]
    simp [Function.comp_def]
  have hlength := length_head text
  refine ⟨edited?_eq_some frame text, hlines, fun index hindex => ?_, fun index hfrom hto => ?_⟩
  · rw [hlines, List.append_assoc, List.append_assoc, List.getElem?_append_left (by omega), head,
      List.getElem?_take_of_lt hindex]
  · have hopened : (head text ++ [frame.1]).length = (Header.scan text).length + 1 := by
      rw [List.length_append, hlength, List.length_singleton]
    have hindex :
        (Header.scan text).length + (index + 1 - ((Header.scan text).length + 1)) = index := by
      omega
    rw [hlines, body_of_lt (by omega), List.append_assoc,
      List.getElem?_append_right (by omega), hopened,
      List.getElem?_append_left (by rw [List.length_drop]; omega), List.getElem?_drop, hindex]

/-- In simple and in single mode a frame of one fresh name is put into the text, in complex mode
nothing is. In every mode the unit has the header of the text, and it still has that once it has
been written to a file and read back, if the mode is the one that the text declares. -/
theorem normalize_inserts (supply : ClassName.Supply) (mode : Mode) (text : String) :
    let wrapped := normalize supply mode text
    (match mode with
      | .simple =>
        Inserts (simpleFrame supply.fresh.1) text wrapped.1 ∧ wrapped.2 = supply.fresh.2
      | .single =>
        Inserts (singleFrame supply.fresh.1) text wrapped.1 ∧ wrapped.2 = supply.fresh.2
      | .complex => wrapped = (text, supply)) ∧
    Header.scan wrapped.1 = Header.scan text ∧
    ∀ file, Mode.declaredFrom file 1 (Header.scan text) = .ok mode →
      Header.scan (Source.decode (Text.Utf8.encode wrapped.1)) = Header.scan text := by
  have hname := ClassName.newline_notMem_fresh supply
  have hread : ∀ frame, IsFrame frame →
      Header.scan (Source.decode (Text.Utf8.encode (around frame text))) = Header.scan text :=
    fun frame h => by rw [Source.decode_encode (around_ne_mark h text), scan_around h]
  cases mode with
  | simple =>
    have h := isFrame_simple hname
    simp only [normalize, and_true]
    exact ⟨inserts_around h text, scan_around h text, fun _ _ => hread _ h⟩
  | single =>
    have h := isFrame_single hname
    simp only [normalize, and_true]
    exact ⟨inserts_around h text, scan_around h text, fun _ _ => hread _ h⟩
  | complex => exact ⟨rfl, rfl, fun _ => scan_decode_encode_of_declared⟩

/-- A comment keeps its place in front of the `Main` method. -/
theorem normalize_inserts_commented :
    let text := "// a\r\nreturn 0;"
    let unit := (normalize (.counting 0) .single text).1
    Mode.declaredFrom ⟨"/main.cs"⟩ 1 (Header.scan text) = .ok .single ∧
    Text.betweenNewlines unit =
      ["// a", "public static class AAAAAAAAAA\x7bpublic static int Main(string[] args)\x7b",
       "return 0;", "\x7d\x7d"] ∧
    Header.scan (Source.decode (Text.Utf8.encode unit)) = ["// a"] := by
  intro text unit
  have hscan : Header.scan text = ["// a"] := by decide
  have hlines : Text.lines text = ["// a", "return 0;"] := by decide
  have hdeclared : Mode.declaredFrom ⟨"/main.cs"⟩ 1 (Header.scan text) = .ok .single := by
    rw [hscan]
    rfl
  obtain ⟨⟨hinserts, -⟩, -, hread⟩ := normalize_inserts (.counting 0) .single text
  refine ⟨hdeclared, ?_, (hread _ hdeclared).trans hscan⟩
  rw [hinserts.lines, head, body, hscan, hlines]
  decide

end Wrapping

end ScriptBuild
