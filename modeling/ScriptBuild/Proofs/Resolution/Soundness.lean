import Mathlib.Data.List.Nodup
import ScriptBuild.Proofs.FileSystem.Canonical
import ScriptBuild.Proofs.Resolution.Agreement
import ScriptBuild.Proofs.Script.Reading

/-!
# What a resolution holds

Every dependency of a resolution got there by a directive in a header, and the file of that header
by a chain of includes that starts at the script. From the directive follows what the dependency is:
an include is followed only to what its kind and its mode allow, and by a path that is canonical
wherever the written path has a canonical form.

A written path can have none and still lead to a file once it has been made absolute as it is
written: with a slash or a dot behind a file's name it is refused, and the dot goes. Such a path
(`Refused`) need not be canonical, and then one file can stand in a resolution twice.

**Results.**
* `Completes.justified`: a search that succeeds finds only what directives stand for.
* `canonical_or_refused`: the target of an include is canonical, or its written path was refused.
* `resolve_sound`: what holds of every successful resolution.
-/
namespace ScriptBuild.Resolver

open Text.Utf8 (Bytes)

/-- The directive stands at a line of the file's header. -/
def Gives (resolver : Resolver) (files : FileSystem) (file : Path) (line : Nat)
    (directive : Directive) : Prop :=
  ∃ header, Source.header files file = .ok header ∧
    .ok (line, directive) ∈ (HeaderScan.start file header resolver.reference).items files

/-- A chain of includes leads from the root to a file, through source files of the resolution. -/
inductive Reaches (resolver : Resolver) (files : FileSystem) (found : Resolution) (root : Path) :
    Path → Prop
  | root : Reaches resolver files found root root
  | included {file target : Path} {line : Nat} (reached : Reaches resolver files found root file)
      (gives : resolver.Gives files file line (.includes target))
      (kept : .file target ∈ found.deps) : Reaches resolver files found root target

/-- A directive at the end of such a chain brings the dependency in. -/
def Justified (resolver : Resolver) (files : FileSystem) (found : Resolution) (root : Path)
    (dependency : Dependency) : Prop :=
  ∃ file line directive, Reaches resolver files found root file ∧
    resolver.Gives files file line directive ∧ Brings resolver files directive dependency

/-- An include at the end of such a chain writes a path that has no canonical form, and this is
what was made of it as it is written. -/
def Refused (resolver : Resolver) (files : FileSystem) (found : Resolution) (root path : Path) :
    Prop :=
  ∃ (file : Path) (header : List String) (index : Nat) (text : String) (written : Path)
    (cause : IoError), Reaches resolver files found root file ∧
    Source.header files file = .ok header ∧ header[index]? = some text ∧
    resolver.Gives files file (index + 1) (.includes path) ∧
    Header.includePath? file.directory resolver.reference text = some written ∧
    files.canonical written = .error cause ∧ path = Path.absolute files.cwd.path written

/-- What holds of a resolution for a script at `root`. -/
structure Sound (resolver : Resolver) (files : FileSystem) (root : Path) (found : Resolution) :
    Prop where
  distinct : found.keys.Nodup
  keyed : ∀ dependency ∈ found.deps, ∀ other ∈ found.deps,
    other.key = dependency.key → other = dependency
  absolute : ∀ dependency ∈ found.deps, ∀ path, dependency.path? = some path →
    path.isAbsolute = true ∧ files.isFile path = true
  canonical : ∀ dependency ∈ found.deps, ∀ path, dependency.path? = some path →
    files.canonical path = .ok path ∨ Refused resolver files found root path
  apart : ∀ dependency ∈ found.deps, ∀ other ∈ found.deps, ∀ path path' full,
    dependency.path? = some path → other.path? = some path' →
    files.canonical path = .ok full → files.canonical path' = .ok full →
    dependency = other ∨ Refused resolver files found root path ∨
      Refused resolver files found root path'
  source : ∀ path, .file path ∈ found.deps →
    ScriptKind.of resolver.probe resolver.marker files path = .ok .source ∧
      Mode.declared files path = .ok .complex
  binary : ∀ path, .binary path ∈ found.deps →
    ScriptKind.of resolver.probe resolver.marker files path = .ok .binary
  justified : ∀ dependency ∈ found.deps, Justified resolver files found root dependency

variable {resolver : Resolver} {files : FileSystem} {scan after : HeaderScan}
  {found final : Resolution} {entered : List Path} {root : Path}

/-- Whatever the search still finds stands in its file. -/
def Reads (resolver : Resolver) (files : FileSystem) (scan : HeaderScan) : Prop :=
  ∀ line directive, .ok (line, directive) ∈ scan.items files →
    resolver.Gives files scan.file line directive

theorem Reads.start {file : Path} {header : List String}
    (read : Source.header files file = .ok header) :
    Reads resolver files (HeaderScan.start file header resolver.reference) :=
  fun _ _ hmem => ⟨header, read, hmem⟩

theorem Reads.next {line : Nat} {directive : Directive} (h : Reads resolver files scan)
    (next : scan.next files = (some (.ok (line, directive)), after)) :
    resolver.Gives files scan.file line directive ∧ Reads resolver files after := by
  have hitems := HeaderScan.items_of_next_some next
  refine ⟨h line directive (hitems ▸ List.mem_cons_self), fun line' directive' hmem => ?_⟩
  rw [HeaderScan.next_file next]
  exact h line' directive' (hitems ▸ List.mem_cons_of_mem _ hmem)

/-- A search that succeeds finds only what directives stand for. -/
theorem Completes.justified {all : Resolution}
    (h : Completes resolver files scan found entered final)
    (hreached : Reaches resolver files all root scan.file) (hreads : Reads resolver files scan)
    (hall : final.deps ⊆ all.deps)
    (hfound : ∀ dependency ∈ found.deps, Justified resolver files all root dependency) :
    ∀ dependency ∈ final.deps, Justified resolver files all root dependency := by
  induction h with
  | finished next => exact hfound
  | mode next later ih =>
    obtain ⟨-, hafter⟩ := hreads.next next
    exact ih (HeaderScan.next_file next ▸ hreached) hafter hall hfound
  | brought next brings old later ih =>
    obtain ⟨hgives, hafter⟩ := hreads.next next
    refine ih (HeaderScan.next_file next ▸ hreached) hafter hall fun dependency hmem => ?_
    rcases Resolution.mem_deps_insert hmem with hmem | rfl
    · exact hfound dependency hmem
    · exact ⟨_, _, _, hreached, hgives, brings⟩
  | @included scan after found more deeper final line target header within entered next brings
      added read inner later ihInner ihLater =>
    obtain ⟨hgives, hafter⟩ := hreads.next next
    have hmore : ∀ dependency ∈ more.deps, Justified resolver files all root dependency := by
      intro dependency hmem
      rw [Resolution.deps_of_insert? added, List.mem_append, List.mem_singleton] at hmem
      rcases hmem with hmem | rfl
      · exact hfound dependency hmem
      · exact ⟨_, _, _, hreached, hgives, brings⟩
    have hdeeper : deeper.deps ⊆ all.deps := fun _ hmem => hall (later.deps_prefix.subset hmem)
    have hkept : .file target ∈ all.deps :=
      hdeeper (inner.deps_prefix.subset (by simp [Resolution.deps_of_insert? added]))
    have hinner := ihInner (.included hreached hgives hkept) (.start read) hdeeper hmore
    exact ihLater (HeaderScan.next_file next ▸ hreached) hafter hall hinner

/-- The target of an include is canonical, or the path written has no canonical form. -/
theorem canonical_or_refused {file target : Path} {line : Nat}
    (reached : Reaches resolver files found root file)
    (gives : resolver.Gives files file line (.includes target)) :
    files.canonical target = .ok target ∨ Refused resolver files found root target := by
  obtain ⟨header, read, hmem⟩ := id gives
  obtain ⟨index, text, hget, hline, hmeaning⟩ := HeaderScan.exists_text_of_mem_items hmem
  obtain rfl : line = index + 1 := by simpa [HeaderScan.start] using hline
  obtain ⟨written, hwritten, htarget⟩ := Header.includePath?_of_meaning hmeaning
  unfold FileSystem.fullPath at htarget
  cases hcanonical : files.canonical written with
  | ok full =>
    obtain rfl : target = full := by simpa [hcanonical] using htarget
    exact .inl (FileSystem.canonical_of_canonical hcanonical)
  | error cause =>
    have habsolute : target = Path.absolute files.cwd.path written := by
      simpa [hcanonical] using htarget
    exact .inr ⟨file, header, index, text, written, cause, reached, read, hget, gives, hwritten,
      hcanonical, habsolute⟩

theorem Brings.target {directive : Directive} {dependency : Dependency} {path : Path}
    (h : Brings resolver files directive dependency) (hpath : dependency.path? = some path) :
    directive = .includes path ∧
      ∃ kind, ScriptKind.of resolver.probe resolver.marker files path = .ok kind := by
  cases h with
  | library name => cases hpath
  | binary kind =>
    cases hpath
    exact ⟨rfl, _, kind⟩
  | source kind declared =>
    cases hpath
    exact ⟨rfl, _, kind⟩

theorem isAbsolute_of_gives {file target : Path} {line : Nat}
    (gives : resolver.Gives files file line (.includes target))
    (hne : target.octets.isEmpty = false) : target.isAbsolute = true := by
  obtain ⟨header, -, hmem⟩ := gives
  obtain ⟨index, text, -, -, hmeaning⟩ := HeaderScan.exists_text_of_mem_items hmem
  obtain ⟨written, -, rfl⟩ := Header.includePath?_of_meaning hmeaning
  exact FileSystem.isAbsolute_fullPath hne

/-- Everything else follows from where the dependencies come from. -/
theorem sound_of_justified
    (h : ∀ dependency ∈ found.deps, Justified resolver files found root dependency) :
    Sound resolver files root found := by
  have hkeyed : ∀ dependency ∈ found.deps, ∀ other ∈ found.deps,
      other.key = dependency.key → other = dependency := fun dependency hmem other hother hkey =>
    List.inj_on_of_nodup_map found.distinct hother hmem hkey
  have hcanonical : ∀ dependency ∈ found.deps, ∀ path, dependency.path? = some path →
      files.canonical path = .ok path ∨ Refused resolver files found root path := by
    intro dependency hmem path hpath
    obtain ⟨file, line, directive, reached, gives, brings⟩ := h dependency hmem
    obtain ⟨rfl, -⟩ := brings.target hpath
    exact canonical_or_refused reached gives
  refine ⟨found.distinct, hkeyed, ?_, hcanonical, ?_, ?_, ?_, h⟩
  · intro dependency hmem path hpath
    obtain ⟨file, line, directive, reached, gives, brings⟩ := h dependency hmem
    obtain ⟨rfl, kind, hkind⟩ := brings.target hpath
    have hfile := ScriptKind.isFile_of_kind hkind
    obtain ⟨place, content, located, -⟩ := FileSystem.isFile_iff.mp hfile
    exact ⟨isAbsolute_of_gives gives (FileSystem.nonempty_of_resolve located), hfile⟩
  · intro dependency hmem other hother path path' full hpath hpath' hfull hfull'
    rcases hcanonical dependency hmem path hpath with hself | hrefused
    · rcases hcanonical other hother path' hpath' with hself' | hrefused'
      · obtain rfl : path = full := Except.ok.inj (hself.symm.trans hfull)
        obtain rfl : path' = path := Except.ok.inj (hself'.symm.trans hfull')
        have hkey : other.key = dependency.key :=
          (Dependency.key_of_path? hpath').trans (Dependency.key_of_path? hpath).symm
        exact .inl (hkeyed dependency hmem other hother hkey).symm
      · exact .inr (.inr hrefused')
    · exact .inr (.inl hrefused)
  · intro path hmem
    obtain ⟨file, line, directive, reached, gives, brings⟩ := h _ hmem
    cases brings with
    | source kind declared => exact ⟨kind, declared⟩
  · intro path hmem
    obtain ⟨file, line, directive, reached, gives, brings⟩ := h _ hmem
    cases brings with
    | binary kind => exact kind

theorem Completes.sound {header : List String} (read : Source.header files root = .ok header)
    (run : Completes resolver files (HeaderScan.start root header resolver.reference) .empty entered
      found) : Sound resolver files root found :=
  sound_of_justified
    (run.justified .root (.start read) (List.Subset.refl _) (by simp [Resolution.empty]))

/-! ## Scripts beside one unit -/

def sourceOnly : Resolver := ⟨fun _ _ => none, ⟨"/"⟩, "ScriptMain"⟩

/-- A script beside a unit and a link to that unit. -/
def besideUnit (main : Bytes) : FileSystem where
  nodes := [
    (["main"], .file main),
    (["link"], .link ⟨"/unit"⟩),
    (["unit"], .file (Text.Utf8.encode "//#mode complex\n//#ref \"deep\"\n"))]
  cwd := []

variable {main : Bytes} {path : Path}

theorem spelled_main : (besideUnit main).Spelled ["main"] :=
  FileSystem.Spelled.root.push
    ⟨rfl, by decide, by decide, by decide, by decide, by decide, _, rfl, by simp⟩

theorem spelled_unit : (besideUnit main).Spelled ["unit"] :=
  FileSystem.Spelled.root.push
    ⟨rfl, by decide, by decide, by decide, by decide, by decide, _, rfl, by simp⟩

theorem walk_link {purpose : FileSystem.Purpose} {rest : List Bytes} (hpurpose : purpose ≠ .write) :
    (besideUnit main).walk purpose 40 [] ([] :: "link" :: rest) =
      (besideUnit main).walk purpose 39 ["unit"] rest := by
  have hrefusal : FileSystem.refusal? purpose [] "link" rest = none := by
    cases purpose with
    | use => rfl
    | write => exact absurd rfl hpurpose
    | spell => exact FileSystem.refusal?_spell_eq_none.mpr ⟨by decide, by decide⟩
  have habsolute : (⟨"/unit"⟩ : Path).isAbsolute = true := rfl
  have hparts : (⟨"/unit"⟩ : Path).parts = ([[], "unit"] : List Bytes) := by decide
  have hstep : (besideUnit main).PlainStep [] "unit" := spelled_unit [] "unit" List.prefix_rfl
  rw [FileSystem.walk_of_idle rfl (.inl rfl),
    FileSystem.walk_of_link rfl (by decide) (by decide) hrefusal rfl,
    if_pos habsolute, hparts, List.cons_append, FileSystem.walk_of_idle rfl (.inl rfl)]
  exact FileSystem.walk_of_plainStep hpurpose hstep

theorem resolve_main : (besideUnit main).resolve ⟨"/main"⟩ = .ok ["main"] :=
  FileSystem.resolve_path_of_spelled spelled_main

theorem canonical_main : Source.canonical (besideUnit main) ⟨"/main"⟩ = .ok ⟨"/main"⟩ :=
  Source.canonical_of_locate resolve_main rfl (FileSystem.locate_path_of_spelled spelled_main)

theorem resolve_unit (h : path = ⟨"/link"⟩ ∨ path = ⟨"/unit"⟩) :
    (besideUnit main).resolve path = .ok ["unit"] := by
  rcases h with rfl | rfl
  · have hwalk : (besideUnit main).walk .use 40 [] [[], "link"] = .ok ["unit"] := by
      rw [walk_link (by decide), FileSystem.walk]
    exact (FileSystem.locate_iff (by decide)).mpr ⟨⟨rfl, by decide, by decide⟩, hwalk⟩
  · exact FileSystem.resolve_path_of_spelled spelled_unit

theorem canonical_unit :
    (besideUnit main).canonical ⟨"/link"⟩ = .ok ⟨"/unit"⟩ ∧
    (besideUnit main).canonical ⟨"/unit"⟩ = .ok ⟨"/unit"⟩ ∧
    (besideUnit main).canonical ⟨"/link/."⟩ = .error .notADirectory := by
  have hlink : (besideUnit main).locate .spell ⟨"/link"⟩ = .ok ["unit"] := by
    have hwalk : (besideUnit main).walk .spell 40 [] [[], "link"] = .ok ["unit"] := by
      rw [walk_link (by decide), FileSystem.walk]
    exact (FileSystem.locate_spell_of_isAbsolute rfl (by decide)).trans hwalk
  have hunit : (besideUnit main).locate .spell ⟨"/unit"⟩ = .ok ["unit"] :=
    FileSystem.locate_path_of_spelled spelled_unit
  have hdot : (besideUnit main).locate .spell ⟨"/link/."⟩ = .error .notADirectory := by
    have hwalk : (besideUnit main).walk .spell 40 [] [[], "link", "."] =
        .error .notADirectory := by
      rw [walk_link (by decide), FileSystem.walk]
      rfl
    exact (FileSystem.locate_spell_of_isAbsolute rfl (by decide)).trans hwalk
  simp only [FileSystem.canonical, hlink, hunit, hdot]
  exact ⟨rfl, rfl, rfl⟩

theorem header_unit (h : path = ⟨"/link"⟩ ∨ path = ⟨"/unit"⟩) :
    Source.header (besideUnit main) path = .ok ["//#mode complex", "//#ref \"deep\""] := by
  rw [Source.header_of_resolve (resolve_unit h) rfl]
  cbv

theorem brings_unit (h : path = ⟨"/link"⟩ ∨ path = ⟨"/unit"⟩) :
    Brings sourceOnly (besideUnit main) (.includes path) (.file path) := by
  have hfile : (besideUnit main).isFile path = true :=
    FileSystem.isFile_iff.mpr ⟨_, _, resolve_unit h, rfl⟩
  have hmode : Mode.declaredFrom path 1 ["//#mode complex", "//#ref \"deep\""] = .ok .complex := by
    cbv
  exact .source (ScriptKind.source_of_probe hfile rfl)
    (Mode.declared_of_header (header_unit h) hmode)

theorem completes_unit (file : Path) (found : Resolution) :
    Completes sourceOnly (besideUnit main)
      (HeaderScan.start file ["//#mode complex", "//#ref \"deep\""] ⟨"/"⟩) found []
      (found.insert (.library "deep")) := by
  have hdeep : ∀ directory, Header.meaning (besideUnit main) directory ⟨"/"⟩ "//#ref \"deep\"" =
      .ok (.found (.reference "deep")) := by
    intro directory
    cbv
  have hnext : (HeaderScan.start file ["//#mode complex", "//#ref \"deep\""] ⟨"/"⟩).next
      (besideUnit main) = (some (.ok (2, .reference "deep")), ⟨file, ⟨"/"⟩, [], 2⟩) := by
    rw [HeaderScan.next_of_skip rfl (Header.meaning_modeComplex _ _ _),
      HeaderScan.next_of_found rfl (hdeep _)]
    rfl
  exact .brought hnext (.library "deep") (by simp [Dependency.source?])
    (.finished (HeaderScan.next_of_nil rfl))

theorem meaning_unit (directory : Path) :
    Header.meaning (besideUnit main) directory ⟨"/"⟩ "//#include \"/unit\"" =
      .ok (.found (.includes ⟨"/unit"⟩)) :=
  Header.meaning_of_spelled spelled_unit rfl (by cbv) (by cbv)

theorem meaning_link (directory : Path) :
    Header.meaning (besideUnit main) directory ⟨"/"⟩ "//#include \"/link/.\"" =
      .ok (.found (.includes ⟨"/link"⟩)) := by
  have hsplit : Header.splitCommand "//#include \"/link/.\"" =
      some (Directive.includeCommand, "\"/link/.\"") := by cbv
  have hread : Argument.read? "\"/link/.\"" = some (.quoted "/link/.") := by cbv
  have habsolute : Path.absolute ⟨"/"⟩ ⟨"/link/."⟩ = ⟨"/link"⟩ := by decide
  have hfull : (besideUnit main).fullPath ⟨"/link/."⟩ = ⟨"/link"⟩ := by
    unfold FileSystem.fullPath
    rw [canonical_unit.2.2]
    exact habsolute
  rw [Header.meaning_of_absolute hsplit hread rfl, hfull]

/-! ## Every successful resolution is sound -/

/-- A script that includes the unit by the link and by its name. Behind the link stands a dot,
which is refused in front of a file and then dropped. -/
def includesTwice : FileSystem :=
  besideUnit (Text.Utf8.encode "//#include \"/link/.\"\n//#include \"/unit\"\n")

def foundTwice : Resolution :=
  ⟨[.file ⟨"/link"⟩, .library "deep", .file ⟨"/unit"⟩], by decide⟩

theorem resolve_includesTwice : sourceOnly.resolve includesTwice ⟨"/main"⟩ = .ok foundTwice := by
  have hread : Source.header includesTwice ⟨"/main"⟩ =
      .ok ["//#include \"/link/.\"", "//#include \"/unit\""] := by
    rw [includesTwice, Source.header_of_resolve resolve_main rfl]
    cbv
  have hrun : Completes sourceOnly includesTwice
      (HeaderScan.start ⟨"/main"⟩ ["//#include \"/link/.\"", "//#include \"/unit\""] ⟨"/"⟩) .empty
      [⟨"/link"⟩, ⟨"/unit"⟩] foundTwice := by
    refine .included (HeaderScan.next_of_found rfl (meaning_link _)) (brings_unit (.inl rfl)) rfl
      (header_unit (.inl rfl)) (completes_unit _ _) ?_
    refine .included (HeaderScan.next_of_found rfl (meaning_unit _)) (brings_unit (.inr rfl)) rfl
      (header_unit (.inr rfl)) (completes_unit _ _) ?_
    exact .finished (HeaderScan.next_of_nil rfl)
  exact resolve_of_completes canonical_main hread hrun

/-- Whatever resolves successfully, the resolution is sound. -/
theorem resolve_sound {script : Path} (h : resolver.resolve files script = .ok found) :
    ∃ root, Source.canonical files script = .ok root ∧ Sound resolver files root found := by
  obtain ⟨root, header, entered, located, read, run⟩ := completes_of_resolve h
  exact ⟨root, located, run.sound read⟩

theorem resolve_sound_includesTwice :
    sourceOnly.resolve includesTwice ⟨"/main"⟩ = .ok foundTwice ∧
    ∃ root, Source.canonical includesTwice ⟨"/main"⟩ = .ok root ∧
      Sound sourceOnly includesTwice root foundTwice :=
  ⟨resolve_includesTwice, resolve_sound resolve_includesTwice⟩

/-- A path found need not be canonical, and one file can be found twice. -/
theorem resolve_not_canonical :
    ∃ found, sourceOnly.resolve includesTwice ⟨"/main"⟩ = .ok found ∧
      .file ⟨"/link"⟩ ∈ found.deps ∧ .file ⟨"/unit"⟩ ∈ found.deps ∧
      includesTwice.canonical ⟨"/link"⟩ = .ok ⟨"/unit"⟩ ∧
      includesTwice.canonical ⟨"/unit"⟩ = .ok ⟨"/unit"⟩ := by
  obtain ⟨hlink, hunit, -⟩ := canonical_unit
  exact ⟨foundTwice, resolve_includesTwice, by simp [foundTwice], by simp [foundTwice], hlink,
    hunit⟩

end ScriptBuild.Resolver
