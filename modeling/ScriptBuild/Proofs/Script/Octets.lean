import ScriptBuild.Proofs.FileSystem.Root
import ScriptBuild.Proofs.FileSystem.Walk
import ScriptBuild.Proofs.Script.Reading
import ScriptBuild.Proofs.Text.Cutting
import ScriptBuild.Proofs.Text.Decoding

/-!
# The octets of a source file

A source file is read line by line: which octets stand on one line has no part in what the others
are read as, or in which number they have. A byte order mark in front of it is not read at all.

Lines are cut at line feeds, before or after the octets are read as characters: no other octets are
read as a newline, and none is lost in an ill-formed sequence. So an ill-formed octet spoils its own
line at most. Two contents are compared line by line, and a file with the same lines at the same
numbers is the same to every operation that reads by lines.

A mark counts only in front of the whole content. One that comes later, also at the start of a line,
is a character like any other.

**Results.**
* `Source.decodeChars_append`: what follows a line feed is read as if no file began there.
* `Source.getElem?_lines_congr`: a line depends on its own octets, its number and how many there
  are.
* `Source.decode_mark_append`: a mark in front changes nothing.
* `FileSystem.SameShape.map_read`: trees whose files read alike are read alike along every path.
* `Source.decode_by_line`: how the octets of a line, and of a mark, bear on what is read.
-/
namespace ScriptBuild

open Text.Utf8 (Bytes)

/-! ## Lines of octets -/

namespace Source

/-- The characters of a source file's octets. -/
def decodeChars (content : Bytes) : List Char := dropMark (Text.Utf8.lossyChars content)

theorem toList_decode (content : Bytes) : (decode content).toList = decodeChars content :=
  String.toList_ofList

theorem dropMark_append_newline (front back : List Char) :
    dropMark (front ++ '\n' :: back) = dropMark front ++ '\n' :: back := by
  cases front with
  | nil => simp [dropMark]
  | cons c cs => by_cases hc : c = '\uFEFF' <;> simp [dropMark, hc]

theorem decodeChars_append (front back : Bytes) :
    decodeChars (front ++ 0x0A :: back) =
      decodeChars front ++ '\n' :: Text.Utf8.lossyChars back := by
  rw [decodeChars, Text.Utf8.lossyChars_append_newline, dropMark_append_newline, decodeChars]

theorem decode_append (front back : Bytes) :
    decode (front ++ 0x0A :: back) = decode front ++ "\n" ++ Text.Utf8.decodeLossy back := by
  rw [← String.toList_inj, String.toList_append, String.toList_append, toList_decode,
    toList_decode, decodeChars_append, Text.Utf8.decodeLossy, String.toList_ofList]
  simp

theorem splitOn_dropMark (cs : List Char) :
    (dropMark cs).splitOn '\n' = (cs.splitOn '\n').modifyHead dropMark := by
  cases cs with
  | nil => rfl
  | cons c cs =>
    rw [List.splitOn_cons_eq_if_modifyHead]
    cases hsplit : cs.splitOn '\n' with
    | nil => exact absurd hsplit (List.splitOn_ne_nil _ _)
    | cons first rest =>
      by_cases hmark : c = '\uFEFF'
      · simp [dropMark, hmark, hsplit]
      · have hkept : ∀ cs, dropMark (c :: cs) = c :: cs := by simp [dropMark, hmark]
        rw [hkept, List.splitOn_cons_eq_if_modifyHead, hsplit]
        split
        · rfl
        · simp [hkept]

/-- Every line of octets is read for itself, and the first one without its mark. -/
theorem splitOn_decodeChars (content : Bytes) :
    (decodeChars content).splitOn '\n' =
      ((content.splitOn 0x0A).map Text.Utf8.lossyChars).modifyHead dropMark := by
  rw [decodeChars, splitOn_dropMark, Text.Utf8.splitOn_lossyChars]

/-- A line is what its own octets are read as, wherever as many lines stand. -/
theorem getElem?_lines_congr {content content' : Bytes} {row : Nat}
    (length : (content'.splitOn 0x0A).length = (content.splitOn 0x0A).length)
    (same : (content'.splitOn 0x0A)[row]? = (content.splitOn 0x0A)[row]?) :
    (Text.lines (decode content'))[row]? = (Text.lines (decode content))[row]? := by
  have hlines : (Text.lineList (decodeChars content'))[row]? =
      (Text.lineList (decodeChars content))[row]? :=
    Text.getElem?_lineList_congr (by simp [splitOn_decodeChars, length])
      (by simp only [splitOn_decodeChars, List.getElem?_modifyHead, List.getElem?_map, same])
  simp only [Text.lines, toList_decode, List.getElem?_map, hlines]

/-! ## Byte order marks -/

def mark : Bytes := [0xEF, 0xBB, 0xBF]

theorem mark_eq_utf8EncodeChar : mark = String.utf8EncodeChar '\uFEFF' := by decide

/-- A mark is read off its octets only. -/
theorem decodeChars_eq_lossyChars {content : Bytes} (h : ¬ mark <+: content) :
    decodeChars content = Text.Utf8.lossyChars content := by
  unfold decodeChars dropMark
  split
  · rename_i cs hmark
    rw [mark_eq_utf8EncodeChar] at h
    exact absurd (Text.Utf8.prefix_of_lossyChars_eq_cons hmark (by decide)) h
  · rfl

theorem decodeChars_mark_append (content : Bytes) :
    decodeChars (mark ++ content) = Text.Utf8.lossyChars content := by
  rw [decodeChars, Text.Utf8.lossyChars, mark_eq_utf8EncodeChar, Text.Utf8.decodeFrom_encodeChar]
  rfl

theorem decode_mark_append {content : Bytes} (h : ¬ mark <+: content) :
    decode (mark ++ content) = decode content := by
  rw [← String.toList_inj, toList_decode, toList_decode, decodeChars_mark_append,
    decodeChars_eq_lossyChars h]

end Source

/-! ## Files whose octets differ -/

namespace FileSystem

variable {files after : FileSystem} {place other : Place} {content content' : Bytes}

theorem sameShape_set (hnode : files.node? place = some (.file content)) (content' : Bytes) :
    SameShape files (files.set place (.file content')) where
  cwd := rfl
  shape other := by
    by_cases heq : other = place
    · subst heq
      have hne : other ≠ [] := TakesFile.ne_root (.inr ⟨_, hnode⟩)
      rw [node?_set_self hne, hnode]
      rfl
    · rw [node?_set_of_ne heq]

theorem file_set_cases {given old new : Bytes} (hnode : files.node? place = some (.file content))
    (hold : files.node? other = some (.file old))
    (hnew : (files.set place (.file given)).node? other = some (.file new)) :
    new = old ∨ old = content ∧ new = given := by
  by_cases heq : other = place
  · subst heq
    have hne : other ≠ [] := TakesFile.ne_root (.inr ⟨_, hnode⟩)
    exact .inr ⟨by simpa [hnode] using hold.symm, by simpa [node?_set_self hne] using hnew.symm⟩
  · rw [node?_set_of_ne heq, hold] at hnew
    exact .inl (by simpa using hnew.symm)

namespace SameShape

theorem isFile_of_isFile {path : Path} (h : SameShape files after)
    (hfile : files.isFile path = true) : after.isFile path = true := by
  obtain ⟨place, content, hresolve, hnode⟩ := isFile_iff.mp hfile
  obtain ⟨content', hnode'⟩ := h.file hnode
  exact isFile_iff.mpr ⟨place, content', (h.locate .use path).trans hresolve, hnode'⟩

theorem isFile (h : SameShape files after) (path : Path) :
    after.isFile path = files.isFile path :=
  Bool.eq_iff_iff.mpr ⟨h.symm.isFile_of_isFile, h.isFile_of_isFile⟩

theorem checkFile (h : SameShape files after) (path : Path) :
    Source.checkFile after path = Source.checkFile files path := by
  simp only [Source.checkFile, h.isFile]

/-- What is made of the texts of files is the same along every path, if it is for every file. -/
theorem map_read {α : Type} {view : String → α} (h : SameShape files after)
    (same : ∀ place content content', files.node? place = some (.file content) →
      after.node? place = some (.file content') →
      view (Source.decode content') = view (Source.decode content)) (path : Path) :
    (Source.read after path).map view = (Source.read files path).map view := by
  cases hfile : files.isFile path with
  | true =>
    obtain ⟨place, content, hresolve, hnode⟩ := isFile_iff.mp hfile
    obtain ⟨content', hnode'⟩ := h.file hnode
    rw [Source.read_of_resolve hresolve hnode,
      Source.read_of_resolve ((h.locate .use path).trans hresolve) hnode', Except.map, Except.map,
      same place content content' hnode hnode']
  | false =>
    have hafter : after.isFile path = false := (h.isFile path).trans hfile
    cases hempty : path.octets.isEmpty <;>
      simp [Source.read, Source.checkFile, hfile, hafter, hempty]

end SameShape

/-- A mark in front of a file's octets is not read along any path. -/
theorem read_set_mark (hnode : files.node? place = some (.file content))
    (hmark : ¬ Source.mark <+: content) (path : Path) :
    Source.read (files.set place (.file (Source.mark ++ content))) path =
      Source.read files path := by
  have hsame : ∀ other old new, files.node? other = some (.file old) →
      (files.set place (.file (Source.mark ++ content))).node? other = some (.file new) →
      id (Source.decode new) = id (Source.decode old) := by
    intro other old new hold hnew
    rcases file_set_cases hnode hold hnew with rfl | ⟨rfl, rfl⟩
    · rfl
    · rw [Source.decode_mark_append hmark]
  simpa [Except.map_id] using (sameShape_set hnode _).map_read hsame path

end FileSystem

/-! ## What is read of octets -/

namespace Source

/-- A line feed is a newline wherever it stands, and what is behind it is read as if no file began
there. So a line is what its own octets are read as, in whichever file they stand as one of as many.
What is well formed is read as it is, and a byte order mark in front of a file is not read: text,
header and mode are those of the file without it, along every path. -/
theorem decode_by_line :
    (∀ front back : Bytes,
      decode (front ++ 0x0A :: back) = decode front ++ "\n" ++ Text.Utf8.decodeLossy back) ∧
    (∀ (content content' : Bytes) (row : Nat),
      (content'.splitOn 0x0A).length = (content.splitOn 0x0A).length →
      (content'.splitOn 0x0A)[row]? = (content.splitOn 0x0A)[row]? →
      (Text.lines (decode content'))[row]? = (Text.lines (decode content))[row]?) ∧
    (∀ text, Text.Utf8.decode? (Text.Utf8.encode text) = some text) ∧
    (∀ content text, Text.Utf8.decode? content = some text →
      Text.Utf8.decodeLossy content = text ∧ (¬ mark <+: content → decode content = text)) ∧
    ∀ (files : FileSystem) (place : Place) (content : Bytes),
      files.node? place = some (.file content) → ¬ mark <+: content → ∀ path,
      read (files.set place (.file (mark ++ content))) path = read files path ∧
      header (files.set place (.file (mark ++ content))) path = header files path ∧
      Mode.declared (files.set place (.file (mark ++ content))) path =
        Mode.declared files path := by
  refine ⟨decode_append, fun content content' row => getElem?_lines_congr,
    Text.Utf8.decode?_encode, fun content text htext => ?_,
    fun files place content hnode hmark path => ?_⟩
  · have hlossy := Text.Utf8.lossyChars_of_decode? htext
    refine ⟨by rw [Text.Utf8.decodeLossy, hlossy, String.ofList_toList], fun hmark => ?_⟩
    rw [← String.toList_inj, toList_decode, decodeChars_eq_lossyChars hmark, hlossy]
  · have hread := FileSystem.read_set_mark hnode hmark path
    have hheader : header (files.set place (.file (mark ++ content))) path = header files path := by
      rw [header, hread, header]
    exact ⟨hread, hheader, by rw [Mode.declared, hheader, Mode.declared]⟩

/-- A file whose first line ends in the middle of a character. -/
def legacy : Bytes := Text.Utf8.encode "//#mode simple caf" ++ [0xC3] ++ 0x0A :: Text.Utf8.encode "f();"

def legacyTree : FileSystem where
  nodes := [(["legacy"], .file legacy)]
  cwd := []

/-- The broken character swallows no line feed, another first line leaves the second as it is, and a
mark in front changes nothing. -/
theorem decode_by_line_legacy :
    legacyTree.node? ["legacy"] = some (.file legacy) ∧ ¬ mark <+: legacy ∧
    read (legacyTree.set ["legacy"] (.file (mark ++ legacy))) ⟨"/legacy"⟩ =
      .ok "//#mode simple caf\uFFFD\nf();" ∧
    Mode.declared (legacyTree.set ["legacy"] (.file (mark ++ legacy))) ⟨"/legacy"⟩ = .ok .simple ∧
    (Text.lines (decode (Text.Utf8.encode "// whole\nf();")))[1]? = some "f();" := by
  obtain ⟨-, hline, -, -, hmarked⟩ := decode_by_line
  have hname : FileSystem.RootName "legacy" := by decide
  have hnode : legacyTree.node? ["legacy"] = some (.file legacy) := rfl
  have hmark : ¬ mark <+: legacy := by decide
  have hresolve : legacyTree.resolve ⟨"/legacy"⟩ = .ok ["legacy"] :=
    FileSystem.resolve_path_of_spelled (hname.spelled hnode)
  have hdecode : decode legacy = "//#mode simple caf\uFFFD\nf();" := by cbv
  obtain ⟨hread, -, hmode⟩ := hmarked legacyTree ["legacy"] legacy hnode hmark ⟨"/legacy"⟩
  refine ⟨hnode, hmark, ?_, ?_, ?_⟩
  · rw [hread, read_of_resolve hresolve hnode, hdecode]
  · have hheader : header legacyTree ⟨"/legacy"⟩ = .ok ["//#mode simple caf\uFFFD"] := by
      rw [header_of_resolve hresolve hnode, hdecode]
      cbv
    rw [hmode, Mode.declared, hheader]
    cbv
  · rw [← hline (Text.Utf8.encode "// whole\nf();") legacy 1 (by cbv) (by cbv), hdecode]
    cbv

end Source

end ScriptBuild
