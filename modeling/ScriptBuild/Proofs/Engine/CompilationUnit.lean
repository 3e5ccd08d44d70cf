import ScriptBuild.Proofs.Engine.Compilation
import ScriptBuild.Proofs.Engine.Preservation
import ScriptBuild.Proofs.FileSystem.Sameness
import ScriptBuild.Proofs.FileSystem.Writing
import ScriptBuild.Proofs.Resolution.Turns

/-!
# What the compiler is given

A compilation calls the compiler at most once, and then for the script's unit and the sources of
its resolution. The unit is written beside the script under a name of its own, which something may
have already: the script may include a file of that name, and a link of that name may lead to a
source. Such a file is what the unit is written over. Every other source is at the call what it
was for the resolution.

The script itself is left out of its sources by comparing paths, and paths are compared by what they
start with and the names in them. A resolution holds no path twice, but it may hold two that are the
same in that sense. At least one of them was written with something behind a file's name that has no
canonical form then (`Refused`); canonical paths that are the same are equal. So the request names
nothing twice unless it lists the unit's own path as a source, or a refused path is involved, and
`Exact.apart` says exactly when.

**Results.**
* `apart_iff`: when the unit and the sources beside it are different paths.
* `exact_of_write`: what the compiler is given once the unit is written.
* `compile_calls`: what every compilation gives the compiler.
-/
namespace ScriptBuild

namespace Engine

variable {engine : Engine} {files : FileSystem} {path full output : Path} {found : Resolution}
  {unit : String}

/-! ## The path of a unit -/

theorem plain_unitEnding : Path.slash ∉ (Text.Utf8.encode ".norm") ∧
    ¬(Text.Utf8.encode ".norm" = [] ∨ Text.Utf8.encode ".norm" = [Path.dot]) := by
  decide

theorem unitPath_ne (script : Path) : unitPath script ≠ script := by
  intro h
  have hoctets : script.octets ++ Text.Utf8.encode ".norm" = script.octets :=
    congrArg Path.octets h
  exact plain_unitEnding.2 (.inl (List.append_right_eq_self.mp hoctets))

theorem isAbsolute_unitPath (h : files.canonical path = .ok full) :
    (unitPath full).isAbsolute = true := by
  obtain ⟨place, rfl, -⟩ := FileSystem.exists_place_of_canonical h
  have habsolute := Place.isAbsolute_path place
  simp only [Path.isAbsolute, unitPath, Path.append, beq_iff_eq] at habsolute ⊢
  rw [List.head?_append, habsolute]
  rfl

/-- A canonical path that is the same as a unit's is equal to it. -/
theorem eq_unitPath_of_same (h : files.canonical path = .ok path)
    (h' : files.canonical full = .ok full) (hsame : path.same (unitPath full) = true) :
    path = unitPath full :=
  FileSystem.eq_append_of_same h h' plain_unitEnding.1 plain_unitEnding.2 hsame

theorem not_same_unitPath (h : files.canonical full = .ok full) :
    (unitPath full).same full = false := by
  rw [Path.same_comm]
  exact Bool.eq_false_iff.mpr fun hsame =>
    unitPath_ne full (eq_unitPath_of_same h h hsame).symm

/-! ## The call -/

/-- What a compilation of the script at `full` gives the compiler: `before` are the files that were
resolved, `files` those at the call. -/
structure Exact (engine : Engine) (before : FileSystem) (full : Path) (found : Resolution)
    (unit : String) (request : CompileRequest) (files : FileSystem) : Prop where
  /-- The unit comes first, and then the sources in their order, the script itself left out. -/
  sources : request.sources =
    unitPath full :: found.sources.filter fun source => !source.same full
  /-- No path is given twice, unless the unit's own path is among the sources. -/
  distinct : request.sources.Nodup ↔ unitPath full ∉ found.sources
  /-- Nor is one given that is the same as another, unless it was refused. -/
  apart : request.sources.Pairwise (fun path other => path.same other = false) ↔
    unitPath full ∉ found.sources ∧
      ∀ path ∈ found.sources, Resolver.Refused engine.resolver before found full path →
        path.same full = true ∨ (path.same (unitPath full) = false ∧
          ∀ other ∈ found.sources, other ≠ path → path.same other = false)
  /-- The unit is there. -/
  written : files.read (unitPath full) = .ok (Text.Utf8.encode unit)
  /-- Every source is what it was, unless the unit's path leads to it. -/
  kept : ∀ path ∈ found.sources, before.resolve path ≠ before.resolve (unitPath full) →
    ∃ content, before.read path = .ok content ∧ files.read path = .ok content
  /-- Where the unit's path leads to a source, the unit is there. -/
  overwritten : ∀ path ∈ found.sources, before.resolve path = before.resolve (unitPath full) →
    files.read path = .ok (Text.Utf8.encode unit)
  /-- A script that is among its own sources is its own unit. -/
  own : ∀ path ∈ found.sources, before.resolve path = before.resolve full →
    Source.read before full = .ok unit
  /-- The script itself is not given beside its unit, and where another path leads to it, that is
  not canonical and was refused. -/
  once : (∀ path ∈ request.sources, path.same full = false) ∧
    ∀ path ∈ found.sources, path.same full = false → before.resolve path = before.resolve full →
      before.canonical path ≠ .ok path ∧ Resolver.Refused engine.resolver before found full path

theorem nodup_unit_cons_iff (h : files.canonical full = .ok full) :
    (unitPath full :: found.sources.filter fun source => !source.same full).Nodup ↔
      unitPath full ∉ found.sources := by
  rw [List.nodup_cons, and_iff_left (found.nodup_sources.filter _)]
  simp [not_same_unitPath h]

/-- When the unit and the sources beside it are different paths. A source that is the same as the
script is left out, so it does not matter what else that is the same as. -/
theorem apart_iff {StandsOut : Path → Prop} (h : files.canonical full = .ok full)
    (hsources : ∀ path ∈ found.sources, files.canonical path = .ok path ∨ StandsOut path) :
    (unitPath full :: found.sources.filter fun source => !source.same full).Pairwise
        (fun path other => path.same other = false) ↔
      unitPath full ∉ found.sources ∧
        ∀ path ∈ found.sources, StandsOut path →
          path.same full = true ∨ (path.same (unitPath full) = false ∧
            ∀ other ∈ found.sources, other ≠ path → path.same other = false) := by
  have hkept : ∀ path, path ∈ found.sources.filter (fun source => !source.same full) ↔
      path ∈ found.sources ∧ path.same full = false := fun path => by simp
  rw [List.pairwise_cons, FileSystem.pairwise_not_same_iff (found.nodup_sources.filter _)
    fun path hpath => hsources path ((hkept path).mp hpath).1]
  constructor
  · rintro ⟨hunit, hothers⟩
    refine ⟨fun hmem => ?_, fun path hpath hout => ?_⟩
    · have hself := hunit _ ((hkept _).mpr ⟨hmem, not_same_unitPath h⟩)
      simp at hself
    · cases hfull : path.same full with
      | true => exact .inl rfl
      | false =>
        have hmem := (hkept path).mpr ⟨hpath, hfull⟩
        refine .inr ⟨Path.same_comm _ _ ▸ hunit path hmem, fun other hother hne => ?_⟩
        cases hleft : other.same full with
        | false => exact hothers path hmem hout other ((hkept other).mpr ⟨hother, hleft⟩) hne
        | true =>
          have hback : full.same path = false := Path.same_comm path full ▸ hfull
          exact Path.same_comm other path ▸ Path.not_same_of_same hleft hback
  · rintro ⟨hunit, hothers⟩
    refine ⟨fun path hmem => ?_, fun path hmem hout other hother hne => ?_⟩
    · obtain ⟨hpath, hfull⟩ := (hkept path).mp hmem
      rw [Path.same_comm]
      rcases hsources path hpath with hcanonical | hout
      · refine Bool.eq_false_iff.mpr fun hsame => hunit ?_
        exact eq_unitPath_of_same hcanonical h hsame ▸ hpath
      · exact ((hothers path hpath hout).resolve_left (by simp [hfull])).1
    · obtain ⟨hpath, hfull⟩ := (hkept path).mp hmem
      exact ((hothers path hpath hout).resolve_left (by simp [hfull])).2 other
        ((hkept other).mp hother).1 hne

/-- Once the unit is written, the compiler is given just that and the other sources. -/
theorem exact_of_write {before : FileSystem} (canonical : before.canonical full = .ok full)
    (sound : ∀ path ∈ found.sources, before.isFile path = true ∧
      Mode.declared before path = .ok .complex)
    (spelled : ∀ path ∈ found.sources, before.canonical path = .ok path ∨
      Resolver.Refused engine.resolver before found full path)
    (normalized : ∃ mode text names, Mode.declared before full = .ok mode ∧
      Source.read before full = .ok text ∧ unit = (Wrapping.normalize names mode text).1)
    (written : before.write (unitPath full) (Text.Utf8.encode unit) = .ok files) :
    Exact engine before full found unit (engine.request full found output) files where
  sources := rfl
  distinct := nodup_unit_cons_iff canonical
  apart := apart_iff canonical spelled
  written := FileSystem.read_of_write written (isAbsolute_unitPath canonical)
  kept path hpath hne := by
    obtain ⟨place, content, hresolve, hnode⟩ := FileSystem.isFile_iff.mp (sound path hpath).1
    have hread : before.read path = .ok content := FileSystem.read_iff.mpr ⟨place, hresolve, hnode⟩
    exact ⟨content, hread,
      FileSystem.read_of_write_of_ne written (isAbsolute_unitPath canonical) hread hne⟩
  overwritten path hpath heq := by
    obtain ⟨place, content, hresolve, hnode⟩ := FileSystem.isFile_iff.mp (sound path hpath).1
    exact FileSystem.read_of_write_of_eq written (isAbsolute_unitPath canonical) hresolve heq
  own path hpath heq := by
    -- What is included is complex, so the script is, and complex text is its own unit.
    obtain ⟨hfile, hcomplex⟩ := sound path hpath
    obtain ⟨mode, text, names, hmode, hread, rfl⟩ := normalized
    obtain rfl : mode = .complex :=
      Except.ok.inj (hmode.symm.trans (Mode.declared_of_resolve_eq hcomplex hfile heq))
    exact hread
  once := by
    refine ⟨fun path hpath => ?_, fun path hpath hother heq => ?_⟩
    · rcases List.mem_cons.mp hpath with rfl | hkept
      · exact not_same_unitPath canonical
      · simpa using (List.mem_filter.mp hkept).2
    · have hno : before.canonical path ≠ .ok path := by
        intro hcanonical
        obtain ⟨place, hfull, hresolve⟩ := FileSystem.exists_place_of_canonical canonical
        obtain ⟨place', hpath', hresolve'⟩ := FileSystem.exists_place_of_canonical hcanonical
        obtain rfl : place' = place := Except.ok.inj (hresolve'.symm.trans (heq.trans hresolve))
        obtain rfl : path = full := hpath'.trans hfull.symm
        simp at hother
      exact ⟨hno, (spelled path hpath).resolve_left hno⟩

theorem complex_of_resolve (resolved : engine.resolve files full = .ok found) :
    ∀ path ∈ found.sources, files.isFile path = true ∧
      Mode.declared files path = .ok .complex := by
  intro path hpath
  obtain ⟨root, -, hsound⟩ := Resolver.resolve_sound resolved
  obtain ⟨hkind, hcomplex⟩ := hsound.source path (Resolution.mem_sources.mp hpath)
  exact ⟨ScriptKind.isFile_of_kind hkind, hcomplex⟩

theorem spelled_of_resolve (canonical : files.canonical full = .ok full)
    (resolved : engine.resolve files full = .ok found) :
    ∀ path ∈ found.sources, files.canonical path = .ok path ∨
      Resolver.Refused engine.resolver files found full path := by
  intro path hpath
  obtain ⟨root, hroot, hsound⟩ := Resolver.resolve_sound resolved
  obtain rfl : root = full :=
    Except.ok.inj ((Source.canonical_of_ok hroot).symm.trans canonical)
  exact hsound.canonical _ (Resolution.mem_sources.mp hpath) path rfl

/-! ## A script that includes one file

The script is its own unit, and so is what it includes. -/

section

variable {script target : Path} {line : String}

theorem brings_complete (read : Source.header files target = .ok ["//#mode complex"]) :
    Resolver.Brings idle.resolver files (.includes target) (.file target) :=
  .source (ScriptKind.source_of_probe (Source.isFile_of_header read) rfl)
    (Mode.declared_of_header read (declaredFrom_modeComplex _ _ _))

theorem resolve_includesOne (located : Source.canonical files script = .ok script)
    (header : Source.header files script = .ok ["//#mode complex", line])
    (meaning : ∀ directory reference, Header.meaning files directory reference line =
      .ok (.found (.includes target)))
    (read : Source.header files target = .ok ["//#mode complex"]) :
    idle.resolve files script = .ok ⟨[.file target], by simp⟩ := by
  have hskip := Header.meaning_modeComplex files
  have hinner : Resolver.Completes idle.resolver files
      (HeaderScan.start target ["//#mode complex"] idle.resolver.reference)
      ⟨[.file target], by simp⟩ [] ⟨[.file target], by simp⟩ :=
    .finished ((HeaderScan.next_of_skip rfl (hskip _ _)).trans (HeaderScan.next_of_nil rfl))
  have hrun : Resolver.Completes idle.resolver files
      (HeaderScan.start script ["//#mode complex", line] idle.resolver.reference) .empty
      [target] ⟨[.file target], by simp⟩ :=
    .included ((HeaderScan.next_of_skip rfl (hskip _ _)).trans
      (HeaderScan.next_of_found rfl (meaning _ _))) (brings_complete read) rfl read hinner
      (.finished (HeaderScan.next_of_nil rfl))
  exact Resolver.resolve_of_completes located header hrun

theorem compile_includesOne {session : Session} {text : String}
    (located : Source.canonical session.files script = .ok script)
    (text_read : Source.read session.files script = .ok text)
    (header : Source.header session.files script = .ok ["//#mode complex", line])
    (meaning : ∀ directory reference, Header.meaning session.files directory reference line =
      .ok (.found (.includes target)))
    (read : Source.header session.files target = .ok ["//#mode complex"]) :
    idle.compile script output session =
      idle.build script ⟨[.file target], by simp⟩ text output session := by
  have hmode : Mode.declared session.files script = .ok .complex :=
    Mode.declared_of_header header (declaredFrom_modeComplex _ _ _)
  have hkind : idle.kind session.files script = .ok .source :=
    ScriptKind.source_of_probe (Source.isFile_of_header header) rfl
  exact compile_of_normalize located (resolve_includesOne located header meaning read)
    (normalize_of_source hkind hmode text_read)

end

/-! ## Something of the unit's name -/

/-- A script, something where its unit is written, and a library. The library's text is complete. -/
def besideLib (main : String) (node : Node) : FileSystem where
  nodes := [
    (["main"], .file (Text.Utf8.encode main)), (["main.norm"], node),
    (["lib"], .file (Text.Utf8.encode ownUnit))]
  cwd := []

section

variable {main line : String} {node : Node} {target : Path} {place spot : Place}

theorem spelled_main_besideLib : (besideLib main node).Spelled ["main"] :=
  FileSystem.Spelled.root.push
    ⟨rfl, by decide, by decide, by decide, by decide, by decide, _, rfl, by simp⟩

theorem resolve_main_besideLib : (besideLib main node).resolve ⟨"/main"⟩ = .ok ["main"] :=
  FileSystem.resolve_path_of_spelled spelled_main_besideLib

theorem canonical_main_besideLib :
    Source.canonical (besideLib main node) ⟨"/main"⟩ = .ok ⟨"/main"⟩ :=
  Source.canonical_of_locate resolve_main_besideLib rfl
    (FileSystem.locate_path_of_spelled spelled_main_besideLib)

/-- The script includes just the file at a place, and both texts are complete. -/
structure Includes (main : String) (node : Node) (line : String) (target : Path) (place : Place) :
    Prop where
  text : Source.decode (Text.Utf8.encode main) = main
  header : Header.scan main = ["//#mode complex", line]
  meaning : ∀ directory reference, Header.meaning (besideLib main node) directory reference line =
    .ok (.found (.includes target))
  leads : (besideLib main node).resolve target = .ok place
  there : (besideLib main node).node? place = some (.file (Text.Utf8.encode ownUnit))

namespace Includes

theorem header_main (h : Includes main node line target place) :
    Source.header (besideLib main node) ⟨"/main"⟩ = .ok ["//#mode complex", line] := by
  rw [Source.header_of_resolve resolve_main_besideLib rfl, h.text, h.header]

theorem header_target (h : Includes main node line target place) :
    Source.header (besideLib main node) target = .ok ["//#mode complex"] := by
  rw [Source.header_of_resolve h.leads h.there]
  cbv

theorem compile (h : Includes main node line target place) :
    idle.compile ⟨"/main"⟩ ⟨"/out"⟩ ⟨besideLib main node, .counting 0, [], [], {}⟩ =
      idle.build ⟨"/main"⟩ ⟨[.file target], by simp⟩ main ⟨"/out"⟩
        ⟨besideLib main node, .counting 0, [], [], {}⟩ := by
  have hread : Source.read (besideLib main node) ⟨"/main"⟩ = .ok main := by
    rw [Source.read_of_resolve resolve_main_besideLib rfl, h.text]
  exact compile_includesOne canonical_main_besideLib hread h.header_main h.meaning h.header_target

/-- The unit is written over what the script includes, if its path leads there. -/
theorem calls (h : Includes main node line target place)
    (hunit : (besideLib main node).locate .write ⟨"/main.norm"⟩ = .ok place)
    (hmain : target.same ⟨"/main"⟩ = false) :
    (besideLib main node).read target = .ok (Text.Utf8.encode ownUnit) ∧
    ∃ request files, (idle.compile ⟨"/main"⟩ ⟨"/out"⟩
        ⟨besideLib main node, .counting 0, [], [], {}⟩).2.calls = [.compile request files] ∧
      request.sources = [⟨"/main.norm"⟩, target] ∧
      files.read target = .ok (Text.Utf8.encode main) := by
  have hsame : (besideLib main node).resolve target =
      (besideLib main node).resolve (unitPath ⟨"/main"⟩) :=
    h.leads.trans (FileSystem.resolve_of_locate_write hunit (by simp [h.there])).symm
  have hwrite : (besideLib main node).write (unitPath ⟨"/main"⟩) (Text.Utf8.encode main) =
      .ok ((besideLib main node).set place (.file (Text.Utf8.encode main))) := by
    change (besideLib main node).write ⟨"/main.norm"⟩ _ = _
    simp only [FileSystem.write, hunit, h.there]
  refine ⟨FileSystem.read_iff.mpr ⟨place, h.leads, h.there⟩, idle.request ⟨"/main"⟩
    ⟨[.file target], by simp⟩ ⟨"/out"⟩, _, ?_, ?_,
    FileSystem.read_of_write_of_eq hwrite rfl h.leads hsame⟩
  · rw [h.compile, build_of_write hwrite]
    rfl
  · have hunitPath : unitPath ⟨"/main"⟩ = ⟨"/main.norm"⟩ := rfl
    simp [request, Resolution.sources, Dependency.source?, hunitPath, hmain]

end Includes

end

def includesUnit : String := "//#mode complex\n//#include \"/main.norm\"\n"

def includesLib : String := "//#mode complex\n//#include \"/lib\"\n"

theorem spelled_includesUnit :
    (besideLib includesUnit (.file (Text.Utf8.encode ownUnit))).Spelled ["main.norm"] :=
  FileSystem.Spelled.root.push
    ⟨rfl, by decide, by decide, by decide, by decide, by decide, _, rfl, by simp⟩

theorem includes_includesUnit :
    Includes includesUnit (.file (Text.Utf8.encode ownUnit)) "//#include \"/main.norm\""
      ⟨"/main.norm"⟩ ["main.norm"] where
  text := by cbv
  header := by cbv
  meaning _ _ := Header.meaning_of_spelled spelled_includesUnit rfl (by cbv) (by cbv)
  leads := FileSystem.resolve_path_of_spelled spelled_includesUnit
  there := rfl

theorem locate_includesUnit :
    (besideLib includesUnit (.file (Text.Utf8.encode ownUnit))).locate .write ⟨"/main.norm"⟩ =
      .ok ["main.norm"] := by
  refine (FileSystem.locate_iff (by decide)).mpr ⟨⟨rfl, by decide, by decide⟩, ?_⟩
  change FileSystem.walk _ .write 40 [] [[], "main.norm"] = _
  rw [FileSystem.walk_of_idle rfl (.inl rfl),
    FileSystem.walk_of_node rfl (by decide) (by decide) rfl rfl (by simp), FileSystem.walk]
  rfl

theorem spelled_includesLib : (besideLib includesLib (.link ⟨"/lib"⟩)).Spelled ["lib"] :=
  FileSystem.Spelled.root.push
    ⟨rfl, by decide, by decide, by decide, by decide, by decide, _, rfl, by simp⟩

theorem includes_includesLib :
    Includes includesLib (.link ⟨"/lib"⟩) "//#include \"/lib\"" ⟨"/lib"⟩ ["lib"] where
  text := by cbv
  header := by cbv
  meaning _ _ := Header.meaning_of_spelled spelled_includesLib rfl (by cbv) (by cbv)
  leads := FileSystem.resolve_path_of_spelled spelled_includesLib
  there := rfl

theorem locate_includesLib :
    (besideLib includesLib (.link ⟨"/lib"⟩)).locate .write ⟨"/main.norm"⟩ = .ok ["lib"] := by
  refine (FileSystem.locate_iff (by decide)).mpr ⟨⟨rfl, by decide, by decide⟩, ?_⟩
  change FileSystem.walk _ .write (39 + 1) [] [[], "main.norm"] = _
  rw [FileSystem.walk_of_idle rfl (.inl rfl),
    FileSystem.walk_of_link rfl (by decide) (by decide) rfl rfl]
  change FileSystem.walk _ .write 39 [] [[], "lib"] = _
  rw [FileSystem.walk_of_idle rfl (.inl rfl),
    FileSystem.walk_of_node rfl (by decide) (by decide) rfl rfl (by simp), FileSystem.walk]
  rfl

/-! ## A library under two paths -/

section

/-- A script that includes the library by its path, and by one with two slashes in front that is
refused for the dot behind it. -/
def includesBoth : String := "//#mode complex\n//#include \"/lib\"\n//#include \"//lib/.\"\n"

/-- That script, the library, and an empty file where the unit is written. -/
def besideBoth : FileSystem := besideLib includesBoth (.file [])

def foundBoth : Resolution := ⟨[.file ⟨"/lib"⟩, .file ⟨"//lib"⟩], by decide⟩

theorem spelled_besideBoth : besideBoth.Spelled ["lib"] :=
  FileSystem.RootName.spelled (by decide) rfl

theorem walk_besideBoth {purpose : FileSystem.Purpose} {rest : List Text.Utf8.Bytes}
    (hpurpose : purpose ≠ .write) :
    besideBoth.walk purpose 40 [] ([] :: [] :: "lib" :: rest) =
      besideBoth.walk purpose 40 ["lib"] rest := by
  have hstep : besideBoth.PlainStep [] "lib" := spelled_besideBoth [] "lib" List.prefix_rfl
  rw [FileSystem.walk_of_idle rfl (.inl rfl), FileSystem.walk_of_idle rfl (.inl rfl)]
  exact FileSystem.walk_of_plainStep hpurpose hstep

theorem header_besideBoth :
    Source.header besideBoth ⟨"/lib"⟩ = .ok ["//#mode complex"] ∧
      Source.header besideBoth ⟨"//lib"⟩ = .ok ["//#mode complex"] := by
  have hlib : besideBoth.resolve ⟨"/lib"⟩ = .ok ["lib"] :=
    FileSystem.resolve_path_of_spelled spelled_besideBoth
  have htwice : besideBoth.resolve ⟨"//lib"⟩ = .ok ["lib"] := by
    refine (FileSystem.locate_iff (by decide)).mpr ⟨⟨rfl, by decide, by decide⟩, ?_⟩
    change besideBoth.walk .use 40 [] [[], [], "lib"] = _
    rw [walk_besideBoth (by decide), FileSystem.walk]
  rw [Source.header_of_resolve hlib rfl, Source.header_of_resolve htwice rfl]
  exact ⟨by cbv, by cbv⟩

theorem meaning_besideBoth (directory reference : Path) :
    Header.meaning besideBoth directory reference "//#include \"/lib\"" =
        .ok (.found (.includes ⟨"/lib"⟩)) ∧
      Header.meaning besideBoth directory reference "//#include \"//lib/.\"" =
        .ok (.found (.includes ⟨"//lib"⟩)) := by
  refine ⟨Header.meaning_of_spelled spelled_besideBoth rfl (by cbv) (by cbv), ?_⟩
  have hsplit : Header.splitCommand "//#include \"//lib/.\"" =
      some (Directive.includeCommand, "\"//lib/.\"") := by cbv
  have hread : Argument.read? "\"//lib/.\"" = some (.quoted "//lib/.") := by cbv
  have hwalk : besideBoth.walk .spell 40 [] [[], [], "lib", "."] = .error .notADirectory := by
    rw [walk_besideBoth (by decide), FileSystem.walk]
    rfl
  have hlocate : besideBoth.locate .spell ⟨"//lib/."⟩ = .error .notADirectory :=
    (FileSystem.locate_spell_of_isAbsolute rfl (by decide)).trans hwalk
  have habsolute : Path.absolute ⟨"/"⟩ ⟨"//lib/."⟩ = ⟨"//lib"⟩ := by decide
  have hfull : besideBoth.fullPath ⟨"//lib/."⟩ = ⟨"//lib"⟩ := by
    rw [FileSystem.fullPath, FileSystem.canonical, hlocate]
    exact habsolute
  rw [Header.meaning_of_absolute hsplit hread rfl, hfull]

theorem compile_besideBoth :
    idle.compile ⟨"/main"⟩ ⟨"/out"⟩ ⟨besideBoth, .counting 0, [], [], {}⟩ =
      idle.build ⟨"/main"⟩ foundBoth includesBoth ⟨"/out"⟩
        ⟨besideBoth, .counting 0, [], [], {}⟩ := by
  have hheader : Source.header besideBoth ⟨"/main"⟩ =
      .ok ["//#mode complex", "//#include \"/lib\"", "//#include \"//lib/.\""] := by
    rw [besideBoth, Source.header_of_resolve resolve_main_besideLib rfl]
    cbv
  have hread : Source.read besideBoth ⟨"/main"⟩ = .ok includesBoth := by
    rw [besideBoth, Source.read_of_resolve resolve_main_besideLib rfl]
    cbv
  have hskip := Header.meaning_modeComplex besideBoth
  have hbare : ∀ (target : Path) (found : Resolution), Resolver.Completes idle.resolver besideBoth
      (HeaderScan.start target ["//#mode complex"] idle.resolver.reference) found [] found :=
    fun target found =>
      .finished ((HeaderScan.next_of_skip rfl (hskip _ _)).trans (HeaderScan.next_of_nil rfl))
  have hrun : Resolver.Completes idle.resolver besideBoth
      (HeaderScan.start ⟨"/main"⟩
        ["//#mode complex", "//#include \"/lib\"", "//#include \"//lib/.\""]
        idle.resolver.reference) .empty [⟨"/lib"⟩, ⟨"//lib"⟩] foundBoth := by
    refine .included ((HeaderScan.next_of_skip rfl (hskip _ _)).trans
      (HeaderScan.next_of_found rfl (meaning_besideBoth _ _).1))
      (brings_complete header_besideBoth.1) rfl header_besideBoth.1 (hbare _ _) ?_
    refine .included (HeaderScan.next_of_found rfl (meaning_besideBoth _ _).2)
      (brings_complete header_besideBoth.2) rfl header_besideBoth.2 (hbare _ _) ?_
    exact .finished (HeaderScan.next_of_nil rfl)
  exact compile_of_normalize canonical_main_besideLib
    (Resolver.resolve_of_completes canonical_main_besideLib hheader hrun)
    (normalize_of_source (ScriptKind.source_of_probe (Source.isFile_of_header hheader) rfl)
      (Mode.declared_of_header hheader (declaredFrom_modeComplex _ _ _)) hread)

end

/-- A compilation fails before it calls the compiler, or calls it once for just the unit of the
script and the sources it has resolved. -/
theorem compile_calls (engine : Engine) (script output : Path) (session : Session) :
    (∃ failure, (engine.compile script output session).1 = .error failure ∧
      (engine.compile script output session).2.calls = session.calls) ∨
    ∃ full found unit request files,
      (engine.compile script output session).1 =
        verdict (engine.compiler.compile request files).1 ∧
      (engine.compile script output session).2.calls =
        session.calls ++ [.compile request files] ∧
      Source.canonical session.files script = .ok full ∧
      engine.resolve session.files full = .ok found ∧
      (engine.normalize full session).1 = .ok unit ∧
      Exact engine session.files full found unit request files := by
  rcases compile_cases engine script output session with
    ⟨failure, after, hcompile, -, hcalls⟩ |
    ⟨full, found, unit, after, hlocated, hresolved, hnormalized, hcompile⟩
  · exact .inl ⟨failure, by rw [hcompile], by rw [hcompile, hcalls]⟩
  · obtain ⟨hfiles, hcalls⟩ := files_of_normalize engine full session
    rw [hnormalized] at hfiles hcalls
    simp only at hfiles hcalls
    cases hwrite : after.files.write (unitPath full) (Text.Utf8.encode unit) with
    | error cause =>
      rw [build_of_write_error hwrite] at hcompile
      exact .inl ⟨_, by rw [hcompile], by rw [hcompile, hcalls]⟩
    | ok files =>
      rw [build_of_write hwrite] at hcompile
      obtain ⟨mode, text, hmode, hread, hunit⟩ := source_of_normalize hnormalized
      refine .inr ⟨full, found, unit, _, files, by rw [hcompile], by rw [hcompile, hcalls],
        hlocated, hresolved, by rw [hnormalized], ?_⟩
      have hcanonical := FileSystem.canonical_of_canonical (Source.canonical_of_ok hlocated)
      exact exact_of_write hcanonical (complex_of_resolve hresolved)
        (spelled_of_resolve hcanonical hresolved) ⟨mode, text, _, hmode, hread, hunit⟩
        (hfiles ▸ hwrite)

/-- A path is given twice if the script includes the file that has its unit's name, and a source is
written over if a link of that name leads to it. Two sources can be the same path, written in two
ways, of which one was refused. -/
theorem compile_overlaps :
    (∃ request files, (idle.compile ⟨"/main"⟩ ⟨"/out"⟩
        ⟨besideLib includesUnit (.file (Text.Utf8.encode ownUnit)), .counting 0, [], [],
          {}⟩).2.calls = [.compile request files] ∧ ¬request.sources.Nodup) ∧
    ((besideLib includesLib (.link ⟨"/lib"⟩)).read ⟨"/lib"⟩ = .ok (Text.Utf8.encode ownUnit) ∧
      ∃ request files, (idle.compile ⟨"/main"⟩ ⟨"/out"⟩
          ⟨besideLib includesLib (.link ⟨"/lib"⟩), .counting 0, [], [], {}⟩).2.calls =
            [.compile request files] ∧
        ⟨"/lib"⟩ ∈ request.sources.tail ∧
        files.read ⟨"/lib"⟩ ≠ .ok (Text.Utf8.encode ownUnit)) ∧
    ∃ request files, (idle.compile ⟨"/main"⟩ ⟨"/out"⟩
        ⟨besideBoth, .counting 0, [], [], {}⟩).2.calls = [.compile request files] ∧
      request.sources = [⟨"/main.norm"⟩, ⟨"/lib"⟩, ⟨"//lib"⟩] ∧
      (⟨"/lib"⟩ : Path).same ⟨"//lib"⟩ = true := by
  obtain ⟨-, request, files, hcalls, hsources, -⟩ :=
    includes_includesUnit.calls locate_includesUnit (by decide)
  obtain ⟨hread, request', files', hcalls', hsources', hwritten⟩ :=
    includes_includesLib.calls locate_includesLib (by decide)
  have hunit : Text.Utf8.encode includesLib ≠ Text.Utf8.encode ownUnit := by decide
  have hname : FileSystem.RootName "main.norm" := by decide
  let written := besideBoth.set ["main.norm"] (.file (Text.Utf8.encode includesBoth))
  have hwrite : besideBoth.write (unitPath ⟨"/main"⟩) (Text.Utf8.encode includesBoth) =
      .ok written :=
    hname.write (.inr ⟨[], rfl⟩)
  refine ⟨⟨request, files, hcalls, ?_⟩, ⟨hread, request', files', hcalls', ?_, ?_⟩,
    idle.request ⟨"/main"⟩ foundBoth ⟨"/out"⟩, written, ?_, by decide, by decide⟩
  · simp [hsources]
  · simp [hsources']
  · simpa [hwritten] using hunit
  · rw [compile_besideBoth, build_of_write hwrite]
    rfl

end Engine

end ScriptBuild
