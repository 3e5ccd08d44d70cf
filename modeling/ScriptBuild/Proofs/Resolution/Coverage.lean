import ScriptBuild.Proofs.FileSystem.Root
import ScriptBuild.Proofs.Resolution.Soundness

/-!
# What no resolution leaves out

A search that succeeds comes to every directive of every file it enters, and what a directive
stands for is looked for under its key. Whatever is under that key first stays, and what comes later
is left out together with all that it would have brought in.

Keys are texts. A library's is its name and a file's is the text that is shown of its path, so two
things can stand in the way of an include: a library whose name is that text, and a file of another
path that shows the same text, which only paths that are no UTF-8 do. A reference is displaced only
by a source file. `Displaced` says that another entry is under the key of a dependency, and as no
key is in a resolution twice, an include is left out exactly when that is so.

**Results.**
* `Completes.follows_all`: a search that succeeds follows every directive of the files it enters.
* `kept_of_brings`: what a followed directive leaves in a resolution.
* `covered_of_resolve`: a successful resolution follows the headers it was found in.
* `resolve_covers`: what a successful resolution holds for the files it was found in.
-/
namespace ScriptBuild.Resolver

/-- What is found is read without an error, and is either passed over or brought in, or something
else is under its key. -/
def Followed (resolver : Resolver) (files : FileSystem) (found : Resolution) (scan : HeaderScan) :
    Prop :=
  ∀ item ∈ scan.items files, ∃ line directive, item = .ok (line, directive) ∧
    ((∃ name, directive = .mode name) ∨
      ∃ dependency, Brings resolver files directive dependency ∧ dependency.key ∈ found.keys)

def Covered (resolver : Resolver) (files : FileSystem) (found : Resolution) (file : Path) : Prop :=
  ∃ header, Source.header files file = .ok header ∧
    Followed resolver files found (HeaderScan.start file header resolver.reference)

/-- Something else is under the key of a dependency. -/
def Displaced (found : Resolution) (dependency : Dependency) : Prop :=
  ∃ other ∈ found.deps, other ≠ dependency ∧ other.key = dependency.key

/-- What a directive leaves in a resolution. -/
def Kept (resolver : Resolver) (files : FileSystem) (found : Resolution) : Directive → Prop
  | .mode _ => True
  | .reference name =>
    .library name ∈ found.deps ∨ (∃ path, .binary path ∈ found.deps ∧ path.text = name) ∨
      ∃ path, .file path ∈ found.deps ∧ path.text = name ∧ name ∉ found.references
  | .includes target =>
    (ScriptKind.of resolver.probe resolver.marker files target = .ok .source ∧
      ((.file target ∈ found.deps ∧ target ∈ found.sources) ∨
        (Displaced found (.file target) ∧ target ∉ found.sources))) ∨
    (ScriptKind.of resolver.probe resolver.marker files target = .ok .binary ∧
      (target.text ∈ found.references ∨
        ∃ path, .file path ∈ found.deps ∧ path ≠ target ∧ path.text = target.text ∧
          target.text ∉ found.references))

variable {resolver : Resolver} {files : FileSystem} {scan after : HeaderScan}
  {found more final : Resolution} {entered : List Path} {root : Path}

theorem Followed.mono (h : Followed resolver files found scan) (hkeys : found.keys ⊆ more.keys) :
    Followed resolver files more scan := by
  intro item hitem
  obtain ⟨line, directive, rfl, hmode | ⟨dependency, brings, hkey⟩⟩ := h item hitem
  · exact ⟨line, directive, rfl, .inl hmode⟩
  · exact ⟨line, directive, rfl, .inr ⟨dependency, brings, hkeys hkey⟩⟩

theorem Followed.of_next_none (next : scan.next files = (none, after)) :
    Followed resolver files found scan := by
  intro item hitem
  rw [HeaderScan.items_of_next_none next] at hitem
  cases hitem

theorem Followed.of_next_some {line : Nat} {directive : Directive}
    (next : scan.next files = (some (.ok (line, directive)), after))
    (here : (∃ name, directive = .mode name) ∨
      ∃ dependency, Brings resolver files directive dependency ∧ dependency.key ∈ found.keys)
    (later : Followed resolver files found after) : Followed resolver files found scan := by
  intro item hitem
  rw [HeaderScan.items_of_next_some next] at hitem
  rcases List.mem_cons.mp hitem with rfl | hitem
  · exact ⟨line, directive, rfl, here⟩
  · exact later item hitem

theorem Completes.keys_subset (h : Completes resolver files scan found entered final) :
    found.keys ⊆ final.keys :=
  List.map_subset _ h.deps_prefix.subset

/-- A search that succeeds follows every directive of its file and of the files it enters. -/
theorem Completes.follows_all (h : Completes resolver files scan found entered final) :
    Followed resolver files final scan ∧ ∀ file ∈ entered, Covered resolver files final file := by
  induction h with
  | finished next => exact ⟨.of_next_none next, by simp⟩
  | mode next later ih => exact ⟨.of_next_some next (.inl ⟨_, rfl⟩) ih.1, ih.2⟩
  | brought next brings old later ih =>
    have hkey := later.keys_subset (Resolution.key_mem_insert _ _)
    exact ⟨.of_next_some next (.inr ⟨_, brings, hkey⟩) ih.1, ih.2⟩
  | @included scan after found more deeper final line target header within entered next brings
      added read inner later ihInner ihLater =>
    have hkeys : deeper.keys ⊆ final.keys := later.keys_subset
    have hkey : (Dependency.file target).key ∈ final.keys :=
      hkeys (inner.keys_subset (by simp [Resolution.keys_of_insert? added]))
    refine ⟨.of_next_some next (.inr ⟨_, brings, hkey⟩) ihLater.1, fun file hfile => ?_⟩
    rw [List.cons_append, List.mem_cons, List.mem_append] at hfile
    rcases hfile with rfl | hfile | hfile
    · exact ⟨header, read, ihInner.1.mono hkeys⟩
    · obtain ⟨header', read', hfollowed⟩ := ihInner.2 file hfile
      exact ⟨header', read', hfollowed.mono hkeys⟩
    · exact ihLater.2 file hfile

theorem Displaced.notMem {dependency : Dependency} (h : Displaced found dependency) :
    dependency ∉ found.deps := by
  obtain ⟨other, hother, hne, hkey⟩ := h
  exact fun hmem => hne (List.inj_on_of_nodup_map found.distinct hother hmem hkey)

/-- A source file's key is the name of nothing that is referred to. -/
theorem notMem_references_of_file {path : Path} (h : .file path ∈ found.deps) :
    path.text ∉ found.references := by
  intro hmem
  obtain ⟨dependency, hdependency, hname⟩ := List.mem_filterMap.mp hmem
  have hkey : dependency.key = (Dependency.file path).key := by
    cases dependency with
    | file => cases hname
    | library | binary => exact Option.some.inj hname
  obtain rfl : dependency = .file path :=
    List.inj_on_of_nodup_map found.distinct hdependency h hkey
  cases hname

theorem kept_of_source {target : Path}
    (kind : ScriptKind.of resolver.probe resolver.marker files target = .ok .source)
    (hkey : (Dependency.file target).key ∈ found.keys) :
    Kept resolver files found (.includes target) := by
  obtain ⟨first, hfirst, hsame⟩ := List.mem_map.mp hkey
  by_cases htarget : first = .file target
  · subst htarget
    exact .inl ⟨kind, .inl ⟨hfirst, Resolution.mem_sources.mpr hfirst⟩⟩
  · have hdisplaced : Displaced found (.file target) := ⟨first, hfirst, htarget, hsame⟩
    exact .inl ⟨kind, .inr ⟨hdisplaced, fun hmem =>
      hdisplaced.notMem (Resolution.mem_sources.mp hmem)⟩⟩

theorem kept_of_binary (hsound : Sound resolver files root found) {target : Path}
    (kind : ScriptKind.of resolver.probe resolver.marker files target = .ok .binary)
    (hkey : (Dependency.binary target).key ∈ found.keys) :
    Kept resolver files found (.includes target) := by
  obtain ⟨first, hfirst, hsame⟩ := List.mem_map.mp hkey
  refine .inr ⟨kind, ?_⟩
  cases first with
  | library other => exact .inl (List.mem_filterMap.mpr ⟨_, hfirst, congrArg some hsame⟩)
  | binary path => exact .inl (List.mem_filterMap.mpr ⟨_, hfirst, congrArg some hsame⟩)
  | file path =>
    have htext : path.text = target.text := hsame
    refine .inr ⟨path, hfirst, ?_, htext, htext ▸ notMem_references_of_file hfirst⟩
    rintro rfl
    have hkind := (hsound.source path hfirst).1
    rw [kind] at hkind
    cases hkind

theorem kept_of_reference {name : String} (hkey : (Dependency.library name).key ∈ found.keys) :
    Kept resolver files found (.reference name) := by
  obtain ⟨first, hfirst, hsame⟩ := List.mem_map.mp hkey
  cases first with
  | library other =>
    obtain rfl : other = name := hsame
    exact .inl hfirst
  | binary path => exact .inr (.inl ⟨path, hfirst, hsame⟩)
  | file path =>
    obtain rfl : path.text = name := hsame
    exact .inr (.inr ⟨path, hfirst, rfl, notMem_references_of_file hfirst⟩)

theorem kept_of_brings (hsound : Sound resolver files root found) {directive : Directive}
    {dependency : Dependency} (brings : Brings resolver files directive dependency)
    (hkey : dependency.key ∈ found.keys) : Kept resolver files found directive := by
  cases brings with
  | library name => exact kept_of_reference hkey
  | binary kind => exact kept_of_binary hsound kind hkey
  | source kind declared => exact kept_of_source kind hkey

/-! ## References and includes under one key -/

/-- A script that refers to the unit by the text of its path, and then includes it. -/
def refersFirst : FileSystem :=
  besideUnit (Text.Utf8.encode "//#ref \"/unit\"\n//#include \"/unit\"\n")

def foundName : Resolution := ⟨[.library "/unit"], by decide⟩

/-- A script that includes the unit, and then refers to it by the text of its path. -/
def includesFirst : FileSystem :=
  besideUnit (Text.Utf8.encode "//#include \"/unit\"\n//#ref \"/unit\"\n")

def foundUnit : Resolution := ⟨[.file ⟨"/unit"⟩, .library "deep"], by decide⟩

theorem meaning_reference {main : Text.Utf8.Bytes} (directory : Path) :
    Header.meaning (besideUnit main) directory ⟨"/"⟩ "//#ref \"/unit\"" =
      .ok (.found (.reference "/unit")) := by
  cbv

theorem header_refersFirst :
    Source.header refersFirst ⟨"/main"⟩ = .ok ["//#ref \"/unit\"", "//#include \"/unit\""] := by
  rw [refersFirst, Source.header_of_resolve resolve_main rfl]
  cbv

theorem header_includesFirst :
    Source.header includesFirst ⟨"/main"⟩ = .ok ["//#include \"/unit\"", "//#ref \"/unit\""] := by
  rw [includesFirst, Source.header_of_resolve resolve_main rfl]
  cbv

theorem resolve_refersFirst : sourceOnly.resolve refersFirst ⟨"/main"⟩ = .ok foundName := by
  have hrun : Completes sourceOnly refersFirst
      (HeaderScan.start ⟨"/main"⟩ ["//#ref \"/unit\"", "//#include \"/unit\""] ⟨"/"⟩) .empty []
      foundName := by
    refine .brought (HeaderScan.next_of_found rfl (meaning_reference _)) (.library "/unit")
      (by simp [Dependency.source?]) ?_
    refine .brought (HeaderScan.next_of_found rfl (meaning_unit _)) (brings_unit (.inr rfl))
      (fun _ => by decide) ?_
    exact .finished (HeaderScan.next_of_nil rfl)
  exact resolve_of_completes canonical_main header_refersFirst hrun

theorem resolve_includesFirst : sourceOnly.resolve includesFirst ⟨"/main"⟩ = .ok foundUnit := by
  have hrun : Completes sourceOnly includesFirst
      (HeaderScan.start ⟨"/main"⟩ ["//#include \"/unit\"", "//#ref \"/unit\""] ⟨"/"⟩) .empty
      [⟨"/unit"⟩] foundUnit := by
    refine .included (HeaderScan.next_of_found rfl (meaning_unit _)) (brings_unit (.inr rfl)) rfl
      (header_unit (.inr rfl)) (completes_unit _ _) ?_
    refine .brought (HeaderScan.next_of_found rfl (meaning_reference _)) (.library "/unit")
      (by simp [Dependency.source?]) ?_
    exact .finished (HeaderScan.next_of_nil rfl)
  exact resolve_of_completes canonical_main header_includesFirst hrun

theorem gives_refersFirst :
    sourceOnly.Gives refersFirst ⟨"/main"⟩ 2 (.includes ⟨"/unit"⟩) := by
  refine ⟨_, header_refersFirst, ?_⟩
  rw [HeaderScan.items_of_next_some (HeaderScan.next_of_found rfl (meaning_reference _)),
    HeaderScan.items_of_next_some (HeaderScan.next_of_found rfl (meaning_unit _))]
  exact List.mem_cons_of_mem _ List.mem_cons_self

theorem gives_includesFirst :
    sourceOnly.Gives includesFirst ⟨"/main"⟩ 2 (.reference "/unit") := by
  refine ⟨_, header_includesFirst, ?_⟩
  rw [HeaderScan.items_of_next_some (HeaderScan.next_of_found rfl (meaning_unit _)),
    HeaderScan.items_of_next_some (HeaderScan.next_of_found rfl (meaning_reference _))]
  exact List.mem_cons_of_mem _ List.mem_cons_self

/-! ## Files that are shown alike -/

/-- Two units under names that are no text and show as the same one, a link to each of them, and a
script that includes both. -/
def shownAlike : FileSystem where
  nodes := [
    (["main"], .file (Text.Utf8.encode "//#include \"/one\"\n//#include \"/two\"\n")),
    (["one"], .link (Place.path [[0xFF]])),
    (["two"], .link (Place.path [[0xFE]])),
    ([[0xFF]], .file (Text.Utf8.encode "//#mode complex\n")),
    ([[0xFE]], .file (Text.Utf8.encode "//#mode complex\n"))]
  cwd := []

def foundFirst : Resolution := ⟨[.file (Place.path [[0xFF]])], by decide⟩

section

variable {octet : UInt8} (hname : FileSystem.RootName [octet])
  (hunit : shownAlike.node? [[octet]] = some (.file (Text.Utf8.encode "//#mode complex\n")))
include hname hunit

theorem header_alike :
    Source.header shownAlike (Place.path [[octet]]) = .ok ["//#mode complex"] := by
  rw [Source.header_of_resolve (FileSystem.resolve_path_of_spelled (hname.spelled hunit)) hunit]
  cbv

theorem brings_alike :
    Brings sourceOnly shownAlike (.includes (Place.path [[octet]]))
      (.file (Place.path [[octet]])) := by
  have hfile : shownAlike.isFile (Place.path [[octet]]) = true :=
    Source.isFile_of_header (header_alike hname hunit)
  have hmode : Mode.declaredFrom (Place.path [[octet]]) 1 ["//#mode complex"] = .ok .complex := by
    cbv
  exact .source (ScriptKind.source_of_probe hfile rfl)
    (Mode.declared_of_header (header_alike hname hunit) hmode)

theorem meaning_alike {link : Text.Utf8.Bytes} {inner line raw : String}
    (hlink : FileSystem.RootName link)
    (htarget : shownAlike.node? [link] = some (.link (Place.path [[octet]])))
    (written : Place.path [link] = ⟨inner⟩)
    (split : Header.splitCommand line = some (Directive.includeCommand, raw))
    (read : Argument.read? raw = some (.quoted inner)) (directory : Path) :
    Header.meaning shownAlike directory ⟨"/"⟩ line =
      .ok (.found (.includes (Place.path [[octet]]))) := by
  have hfull : shownAlike.fullPath ⟨inner⟩ = Place.path [[octet]] := by
    rw [← written, FileSystem.fullPath, hlink.canonical_of_link hname htarget hunit]
  rw [Header.meaning_of_absolute split read (written ▸ Place.isAbsolute_path _), hfull]

end

theorem meaning_shownAlike (directory : Path) :
    Header.meaning shownAlike directory ⟨"/"⟩ "//#include \"/one\"" =
        .ok (.found (.includes (Place.path [[0xFF]]))) ∧
      Header.meaning shownAlike directory ⟨"/"⟩ "//#include \"/two\"" =
        .ok (.found (.includes (Place.path [[0xFE]]))) := by
  have hone : Place.path ["one"] = ⟨"/one"⟩ := rfl
  have htwo : Place.path ["two"] = ⟨"/two"⟩ := rfl
  exact ⟨meaning_alike (by decide) rfl (by decide) rfl hone (by cbv) (by cbv) directory,
    meaning_alike (by decide) rfl (by decide) rfl htwo (by cbv) (by cbv) directory⟩

theorem header_shownAlike :
    Source.header shownAlike ⟨"/main"⟩ = .ok ["//#include \"/one\"", "//#include \"/two\""] := by
  have hmain : FileSystem.RootName "main" := by decide
  have hresolve : shownAlike.resolve ⟨"/main"⟩ = .ok ["main"] :=
    FileSystem.resolve_path_of_spelled (hmain.spelled rfl)
  rw [Source.header_of_resolve hresolve rfl]
  cbv

theorem resolve_shownAlike : sourceOnly.resolve shownAlike ⟨"/main"⟩ = .ok foundFirst := by
  have hmain : FileSystem.RootName "main" := by decide
  have hspelled : shownAlike.Spelled ["main"] := hmain.spelled rfl
  have hcanonical : Source.canonical shownAlike ⟨"/main"⟩ = .ok ⟨"/main"⟩ :=
    Source.canonical_of_locate (FileSystem.resolve_path_of_spelled hspelled) rfl
      (FileSystem.locate_path_of_spelled hspelled)
  have hbare : (HeaderScan.start (Place.path [[0xFF]]) ["//#mode complex"] ⟨"/"⟩).next shownAlike =
      (none, ⟨Place.path [[0xFF]], ⟨"/"⟩, [], 1⟩) := by
    rw [HeaderScan.next_of_skip rfl (Header.meaning_modeComplex _ _ _)]
    exact HeaderScan.next_of_nil rfl
  have hrun : Completes sourceOnly shownAlike
      (HeaderScan.start ⟨"/main"⟩ ["//#include \"/one\"", "//#include \"/two\""] ⟨"/"⟩) .empty
      [Place.path [[0xFF]]] foundFirst := by
    refine .included (HeaderScan.next_of_found rfl (meaning_shownAlike _).1)
      (brings_alike (by decide) rfl) rfl (header_alike (by decide) rfl) (.finished hbare) ?_
    refine .brought (HeaderScan.next_of_found rfl (meaning_shownAlike _).2)
      (brings_alike (by decide) rfl) (fun _ => by decide) ?_
    exact .finished (HeaderScan.next_of_nil rfl)
  exact resolve_of_completes hcanonical header_shownAlike hrun

theorem gives_shownAlike :
    sourceOnly.Gives shownAlike ⟨"/main"⟩ 2 (.includes (Place.path [[0xFE]])) := by
  refine ⟨_, header_shownAlike, ?_⟩
  rw [HeaderScan.items_of_next_some (HeaderScan.next_of_found rfl (meaning_shownAlike _).1),
    HeaderScan.items_of_next_some (HeaderScan.next_of_found rfl (meaning_shownAlike _).2)]
  exact List.mem_cons_of_mem _ List.mem_cons_self

/-- A successful resolution follows the whole headers of the script and of every source file in
it. -/
theorem covered_of_resolve {script : Path} (h : resolver.resolve files script = .ok found) :
    ∃ root, Source.canonical files script = .ok root ∧ Sound resolver files root found ∧
      ∀ file, file = root ∨ file ∈ found.sources → Covered resolver files found file := by
  obtain ⟨root, header, entered, located, read, run⟩ := completes_of_resolve h
  obtain ⟨hroot, hentered⟩ := run.follows_all
  have hsources : found.sources = entered := by
    simpa [Resolution.sources, Resolution.empty] using run.sources_eq
  refine ⟨root, located, run.sound read, fun file hfile => ?_⟩
  rcases hfile with rfl | hfile
  · exact ⟨header, read, hroot⟩
  · exact hentered file (hsources ▸ hfile)

/-- A successful resolution holds something for every directive of the script and of every source
file in it. -/
theorem resolve_covers {script : Path} (h : resolver.resolve files script = .ok found) :
    ∃ root, Source.canonical files script = .ok root ∧
      ∀ file, file = root ∨ file ∈ found.sources →
        ∃ header, Source.header files file = .ok header ∧
          ∀ item ∈ (HeaderScan.start file header resolver.reference).items files,
            ∃ line directive, item = .ok (line, directive) ∧
              Kept resolver files found directive := by
  obtain ⟨root, located, hsound, hcovered⟩ := covered_of_resolve h
  refine ⟨root, located, fun file hfile => ?_⟩
  obtain ⟨header, read, hfollowed⟩ := hcovered file hfile
  refine ⟨header, read, fun item hitem => ?_⟩
  obtain ⟨line, directive, rfl, ⟨name, rfl⟩ | ⟨dependency, brings, hkey⟩⟩ := hfollowed item hitem
  · exact ⟨line, .mode name, rfl, trivial⟩
  · exact ⟨line, directive, rfl, kept_of_brings hsound brings hkey⟩

theorem resolve_covers_includesFirst :
    sourceOnly.resolve includesFirst ⟨"/main"⟩ = .ok foundUnit ∧
    ∃ root, Source.canonical includesFirst ⟨"/main"⟩ = .ok root ∧
      ∀ file, file = root ∨ file ∈ foundUnit.sources →
        ∃ header, Source.header includesFirst file = .ok header ∧
          ∀ item ∈ (HeaderScan.start file header sourceOnly.reference).items includesFirst,
            ∃ line directive, item = .ok (line, directive) ∧
              Kept sourceOnly includesFirst foundUnit directive :=
  ⟨resolve_includesFirst, resolve_covers resolve_includesFirst⟩

/-- What comes second under a key is left out: a unit, with all that it refers to, whose path is a
name already; a name that is the path of a unit already; and a unit that is shown as another is. -/
theorem resolve_leaves_out :
    (∃ found, sourceOnly.resolve refersFirst ⟨"/main"⟩ = .ok found ∧
      sourceOnly.Gives refersFirst ⟨"/main"⟩ 2 (.includes ⟨"/unit"⟩) ∧
      ScriptKind.of sourceOnly.probe sourceOnly.marker refersFirst ⟨"/unit"⟩ = .ok .source ∧
      .file ⟨"/unit"⟩ ∉ found.deps ∧ found.sources = []) ∧
    (∃ found, sourceOnly.resolve includesFirst ⟨"/main"⟩ = .ok found ∧
      sourceOnly.Gives includesFirst ⟨"/main"⟩ 2 (.reference "/unit") ∧
      .library "/unit" ∉ found.deps ∧ ∀ path, .binary path ∉ found.deps) ∧
    (∃ found, sourceOnly.resolve shownAlike ⟨"/main"⟩ = .ok found ∧
      sourceOnly.Gives shownAlike ⟨"/main"⟩ 2 (.includes (Place.path [[0xFE]])) ∧
      ScriptKind.of sourceOnly.probe sourceOnly.marker shownAlike (Place.path [[0xFE]]) =
        .ok .source ∧
      .file (Place.path [[0xFE]]) ∉ found.deps) := by
  have hkind : ScriptKind.of sourceOnly.probe sourceOnly.marker refersFirst ⟨"/unit"⟩ =
      .ok .source := by
    have hbrings : Brings sourceOnly refersFirst (.includes ⟨"/unit"⟩) (.file ⟨"/unit"⟩) :=
      brings_unit (.inr rfl)
    cases hbrings
    assumption
  have hkind' : ScriptKind.of sourceOnly.probe sourceOnly.marker shownAlike
      (Place.path [[0xFE]]) = .ok .source := by
    have hbrings : Brings sourceOnly shownAlike (.includes (Place.path [[0xFE]]))
        (.file (Place.path [[0xFE]])) := brings_alike (by decide) rfl
    cases hbrings
    assumption
  refine ⟨⟨foundName, resolve_refersFirst, gives_refersFirst, hkind, by simp [foundName], rfl⟩,
    ⟨foundUnit, resolve_includesFirst, gives_includesFirst, by simp [foundUnit],
      by simp [foundUnit]⟩,
    ⟨foundFirst, resolve_shownAlike, gives_shownAlike, hkind', ?_⟩⟩
  simp [foundFirst, Place.path]

end ScriptBuild.Resolver
