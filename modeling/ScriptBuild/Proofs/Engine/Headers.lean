import ScriptBuild.Proofs.Engine.Preservation
import ScriptBuild.Proofs.Resolution.Lockstep
import ScriptBuild.Proofs.Script.Octets
import ScriptBuild.Proofs.Text.Trimming

/-!
# Only headers matter

What is in a file behind its header has no part in how a script is resolved, which mode it has, and
what the compiler is asked for. Two trees that differ in bodies only are `Alike`: a walk goes the
same way in both, and every file has the same header. Which files open as modules has to be the same
too, since that is up to the loader.

`Alike` allows no file to come or go, and no link or directory to differ. What may differ is the
content of files, as long as the header read from it is the same. A file that gets other octets
behind a line of its body is an example, and all that is needed of it is that the line is ended: a
body's last line that goes on may become a header line. Ill-formed octets do no harm, since a
newline is never part of one.

The walk is compared step by step by `InStep`, with no condition on the files it visits. What the
compiler does with the request is not compared: bodies matter to it.

**Results.**
* `scan_append`: what follows a line of the body does not change the header.
* `alike_set`: trees are alike if a file differs behind a line of its body.
* `Alike.inStep`: resolutions in trees that are alike go in lockstep.
* `only_headers_matter`: what is resolved and what the compiler is asked for are the same.
-/
namespace ScriptBuild

open Text.Utf8 (Bytes)

/-! ## The header of a text -/

namespace Text

theorem pieces_append_newline (cs later : List Char) :
    pieces (cs ++ '\n' :: later) = pieces cs ++ ['\n'] :: pieces later ∨
      ∃ front last, pieces cs = front ++ [last] ∧
        pieces (cs ++ '\n' :: later) = front ++ (last ++ ['\n']) :: pieces later := by
  induction cs with
  | nil => exact .inl (by simp [consPiece])
  | cons c cs ih =>
    rw [List.cons_append, pieces_cons, pieces_cons]
    by_cases hc : c = '\n'
    · rcases ih with hends | ⟨front, last, hcs, hlast⟩
      · exact .inl (by simp [consPiece, hc, hends])
      · exact .inr ⟨[c] :: front, last, by simp [consPiece, hc, hcs], by simp [consPiece, hc, hlast]⟩
    · rcases ih with hends | ⟨front, last, hcs, hlast⟩
      · cases hpieces : pieces cs with
        | nil => exact .inr ⟨[], [c], by simp [consPiece, hc], by simp [consPiece, hc, hends, hpieces]⟩
        | cons piece rest => exact .inl (by simp [consPiece, hc, hends, hpieces])
      · cases front with
        | nil => exact .inr ⟨[], c :: last, by simp [consPiece, hc, hcs], by simp [consPiece, hc, hlast]⟩
        | cons piece front =>
          exact .inr ⟨(c :: piece) :: front, last, by simp [consPiece, hc, hcs],
            by simp [consPiece, hc, hlast]⟩

/-- Trimmed, the lines in front of a newline are those of the text that ends there. -/
theorem exists_lines_append_newline (cs later : List Char) :
    ∃ more, (lineList (cs ++ '\n' :: later)).map trimChars =
      (lineList cs).map trimChars ++ more := by
  have htrim : ∀ cs, (lineList cs).map trimChars = (pieces cs).map trimChars := by
    intro cs
    rw [lineList, List.map_map]
    exact List.map_congr_left fun piece _ => trimChars_dropTerminator piece
  rw [htrim, htrim]
  rcases pieces_append_newline cs later with hends | ⟨front, last, hcs, hlast⟩
  · exact ⟨_, by rw [hends, List.map_append]⟩
  · have hlast' : trimChars (last ++ ['\n']) = trimChars last :=
      trimChars_append_blank last (by simp [isBlank_newline])
    exact ⟨(pieces later).map trimChars, by rw [hcs, hlast]; simp [hlast']⟩

end Text

namespace Header

/-- Some line of a text is one of its body. -/
def HasBody (cs : List Char) : Prop :=
  ∃ line ∈ Text.lineList cs, admits (Text.trimChars line) = false

/-- What follows a line of the body does not change the header. -/
theorem scanChars_append {cs : List Char} (h : HasBody cs) (later : List Char) :
    scanChars (cs ++ '\n' :: later) = scanChars cs := by
  obtain ⟨more, hmore⟩ := Text.exists_lines_append_newline cs later
  obtain ⟨line, hline, hbody⟩ := h
  rw [scanChars, scanChars, hmore, List.takeWhile_append, if_neg]
  intro hlength
  have hall := List.takeWhile_eq_self_iff.mp
    ((List.takeWhile_prefix admits).eq_of_length hlength)
  simp [hall _ (List.mem_map_of_mem hline)] at hbody

end Header

namespace Source

/-- Octets behind a line of the body do not change the header. -/
theorem scan_append {front : Bytes} (h : Header.HasBody (decodeChars front)) (back back' : Bytes) :
    Header.scan (decode (front ++ 0x0A :: back)) = Header.scan (decode (front ++ 0x0A :: back')) := by
  have hscan : ∀ back, Header.scan (decode (front ++ 0x0A :: back)) =
      (Header.scanChars (decodeChars front)).map String.ofList := by
    intro back
    rw [Header.scan, toList_decode, decodeChars_append, Header.scanChars_append h]
  rw [hscan, hscan]

end Source

/-! ## Trees with the same headers -/

namespace FileSystem

variable {files after : FileSystem} {place : Place} {front : Bytes}

namespace SameShape

theorem canonical (h : SameShape files after) (path : Path) :
    after.canonical path = files.canonical path := by
  simp only [FileSystem.canonical, h.locate]

theorem sourceCanonical (h : SameShape files after) (path : Path) :
    Source.canonical after path = Source.canonical files path := by
  simp only [Source.canonical, h.checkFile, h.canonical]

theorem fullPath (h : SameShape files after) (path : Path) :
    after.fullPath path = files.fullPath path := by
  simp only [FileSystem.fullPath, h.canonical, h.cwd]

theorem meaning (h : SameShape files after) (directory reference : Path) (line : String) :
    Header.meaning after directory reference line =
      Header.meaning files directory reference line := by
  simp only [Header.meaning, h.fullPath]

end SameShape

/-- The same tree, up to the bodies of its files. -/
structure Alike (files after : FileSystem) : Prop extends SameShape files after where
  scan : ∀ place content content', files.node? place = some (.file content) →
    after.node? place = some (.file content') →
    Header.scan (Source.decode content') = Header.scan (Source.decode content)

theorem alike_set {back : Bytes} (hnode : files.node? place = some (.file (front ++ 0x0A :: back)))
    (hbody : Header.HasBody (Source.decodeChars front)) (back' : Bytes) :
    Alike files (files.set place (.file (front ++ 0x0A :: back'))) where
  toSameShape := sameShape_set hnode _
  scan other content content' hcontent hcontent' := by
    rcases file_set_cases hnode hcontent hcontent' with rfl | ⟨rfl, rfl⟩
    · rfl
    · exact Source.scan_append hbody _ _

theorem Alike.header (h : Alike files after) (path : Path) :
    Source.header after path = Source.header files path :=
  h.map_read h.scan path

/-- The same files open as modules, and with the same answer about a type. -/
def SameModules (probe : Probe) (marker : String) (files after : FileSystem) : Prop :=
  ∀ path, files.isFile path = true →
    (probe after path).map (· marker) = (probe files path).map (· marker)

variable {probe : Probe} {marker : String}

theorem Alike.kind (h : Alike files after) (hprobe : SameModules probe marker files after)
    (path : Path) :
    ScriptKind.of probe marker after path = ScriptKind.of probe marker files path := by
  simp only [ScriptKind.of, h.checkFile]
  cases hcheck : Source.checkFile files path with
  | error failure => rfl
  | ok checked =>
    have hsame := hprobe path (Source.checkFile_iff.mp hcheck)
    cases hafter : probe after path <;> cases hfiles : probe files path <;> simp_all

/-- Resolutions in trees that are alike go in lockstep. -/
theorem Alike.inStep {resolver : Resolver} (h : Alike files after)
    (hprobe : SameModules resolver.probe resolver.marker files after) :
    resolver.InStep files after fun _ => True where
  header file _ := h.header file
  meaning _ _ _ _ line _ := h.meaning _ _ line
  kind file _ := h.kind hprobe file
  closed _ _ _ _ _ _ _ _ := trivial

end FileSystem

namespace Engine

variable {engine : Engine} {files after : FileSystem}

theorem resolve_of_alike (h : files.Alike after)
    (hprobe : FileSystem.SameModules engine.loader.probe engine.settings.marker files after)
    (script : Path) : engine.resolve after script = engine.resolve files script :=
  (h.inStep hprobe).resolve (h.sourceCanonical script) fun _ _ => trivial

theorem mode_of_alike (h : files.Alike after)
    (hprobe : FileSystem.SameModules engine.loader.probe engine.settings.marker files after)
    (script : Path) : engine.mode after script = engine.mode files script := by
  simp only [mode, Mode.of, Mode.declared, h.kind hprobe script, h.header]

theorem request_of_calls {script output : Path} {session : Session} {request : CompileRequest}
    {given : FileSystem} (hcalls : (engine.compile script output session).2.calls =
      session.calls ++ [.compile request given]) :
    ∃ full found, Source.canonical session.files script = .ok full ∧
      engine.resolve session.files full = .ok found ∧
      request = engine.request full found output := by
  rcases engine.compile_called script output session with
    ⟨failure, -, hnone⟩ | ⟨full, found, written, hlocated, hresolved, hcalls', -⟩
  · simp [hnone] at hcalls
  · obtain ⟨hrequest, -⟩ : engine.request full found output = request ∧ written = given := by
      simpa using hcalls'.symm.trans hcalls
    exact ⟨full, found, hlocated, hresolved, hrequest.symm⟩

/-! ## A script with two bodies -/

/-- A script as far as the first line of its body, without the newline. -/
def opening : Bytes := Text.Utf8.encode "//#mode complex\nclass A;"

/-- The script with more text behind that line. -/
def withBody (back : String) : FileSystem where
  nodes := [(["main"], .file (opening ++ 0x0A :: Text.Utf8.encode back))]
  cwd := []

theorem hasBody_opening : Header.HasBody (Source.decodeChars opening) := by
  have hchars : Source.decodeChars opening = "//#mode complex\nclass A;".toList := by cbv
  have hlines : Text.lineList "//#mode complex\nclass A;".toList =
      ["//#mode complex".toList, "class A;".toList] := by cbv
  rw [hchars, Header.HasBody, hlines]
  exact ⟨"class A;".toList, by simp, by cbv⟩

theorem alike_withBody (back back' : String) : (withBody back).Alike (withBody back') := by
  have hset : (withBody back).set ["main"] (.file (opening ++ 0x0A :: Text.Utf8.encode back')) =
      withBody back' := by
    simp [withBody, FileSystem.set]
  rw [← hset]
  exact FileSystem.alike_set rfl hasBody_opening _

/-- Where two trees differ in bodies only and the same files open as modules, every path resolves to
the same or fails in the same way, has the same mode, and when it is compiled the compiler is asked
for the same. So it is wherever a file differs behind a line of its body. -/
theorem only_headers_matter (h : files.Alike after)
    (hprobe : FileSystem.SameModules engine.loader.probe engine.settings.marker files after) :
    (∀ script, engine.resolve after script = engine.resolve files script ∧
      engine.mode after script = engine.mode files script) ∧
    (∀ script output session session' request request' given given',
      session.files = files → session'.files = after →
      (engine.compile script output session).2.calls =
        session.calls ++ [.compile request given] →
      (engine.compile script output session').2.calls =
        session'.calls ++ [.compile request' given'] → request' = request) ∧
    ∀ (front back back' : Bytes) (place : Place),
      files.node? place = some (.file (front ++ 0x0A :: back)) →
      Header.HasBody (Source.decodeChars front) →
      files.Alike (files.set place (.file (front ++ 0x0A :: back'))) := by
  refine ⟨fun script => ⟨resolve_of_alike h hprobe script, mode_of_alike h hprobe script⟩, ?_,
    fun front back back' place hnode hbody => FileSystem.alike_set hnode hbody back'⟩
  rintro script output session session' request request' given given' rfl rfl hcalls hcalls'
  obtain ⟨full, found, hlocated, hresolved, rfl⟩ := request_of_calls hcalls
  obtain ⟨full', found', hlocated', hresolved', rfl⟩ := request_of_calls hcalls'
  obtain rfl : full' = full :=
    Except.ok.inj (hlocated'.symm.trans ((h.sourceCanonical script).trans hlocated))
  obtain rfl : found' = found :=
    Except.ok.inj (hresolved'.symm.trans ((resolve_of_alike h hprobe full').trans hresolved))
  rfl

/-- An include behind the first line of the body is not followed, though its target is missing. -/
theorem only_headers_matter_withBody :
    (withBody "").Alike (withBody "//#include \"/gone\"\n") ∧
    FileSystem.SameModules idle.loader.probe idle.settings.marker (withBody "")
      (withBody "//#include \"/gone\"\n") ∧
    idle.resolve (withBody "//#include \"/gone\"\n") ⟨"/main"⟩ =
      idle.resolve (withBody "") ⟨"/main"⟩ ∧
    idle.resolve (withBody "") ⟨"/main"⟩ = .ok .empty := by
  have hprobe : FileSystem.SameModules idle.loader.probe idle.settings.marker (withBody "")
      (withBody "//#include \"/gone\"\n") := fun _ _ => rfl
  obtain ⟨hsame, -, -⟩ := only_headers_matter (alike_withBody "" _) hprobe
  refine ⟨alike_withBody _ _, hprobe, (hsame ⟨"/main"⟩).1, ?_⟩
  have hspelled : (withBody "").Spelled ["main"] := rootName_main.spelled rfl
  have hresolve : (withBody "").resolve ⟨"/main"⟩ = .ok ["main"] :=
    FileSystem.resolve_path_of_spelled hspelled
  have hcanonical : Source.canonical (withBody "") ⟨"/main"⟩ = .ok ⟨"/main"⟩ :=
    Source.canonical_of_locate hresolve rfl (FileSystem.locate_path_of_spelled hspelled)
  have hheader : Source.header (withBody "") ⟨"/main"⟩ = .ok ["//#mode complex"] := by
    rw [Source.header_of_resolve hresolve rfl]
    cbv
  have hnext : (HeaderScan.start ⟨"/main"⟩ ["//#mode complex"] idle.resolver.reference).next
      (withBody "") = (none, ⟨⟨"/main"⟩, idle.resolver.reference, [], 1⟩) := by
    rw [HeaderScan.next_of_skip rfl (Header.meaning_modeComplex _ _ _)]
    exact HeaderScan.next_of_nil rfl
  exact Resolver.resolve_of_completes hcanonical hheader (.finished hnext)

end Engine

end ScriptBuild
