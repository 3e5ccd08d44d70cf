import ScriptBuild.Proofs.Engine.Preservation

/-!
# What a compilation refers to

The compiler is given the default references first, and behind them the resolved ones. No resolution
refers to a name twice, and a resolved name that is a default as well is left out there. Only the
settings can make a name come twice: what they repeat is passed on as it is.

The names are compared as texts. Two paths of one module are two names, and so are the name of a
library and the path of its module. `Merges` says in which order they stand, which there are, and
exactly when one stands twice.

The resolved names carry the proof that they are distinct, so adding them one by one, unless they
are there, keeps those that are no defaults and in their order. That is the only induction here. So
the list depends on the resolution through its references alone, whatever else it holds.

**Results.**
* `merges_references`: how default and resolved references come together.
* `compile_refers`: what every compilation gives the compiler to refer to.
-/
namespace ScriptBuild

namespace Engine

/-- The default references and the resolved ones have come together. -/
structure Merges (defaults resolved references : List String) : Prop where
  /-- The defaults come first, in their order, and then in theirs the resolved names that are none. -/
  order : references = defaults ++ resolved.filter (· ∉ defaults)
  union : ∀ name, name ∈ references ↔ name ∈ defaults ∨ name ∈ resolved
  /-- A name comes twice just if it does so among the defaults. -/
  repeated : ∀ name, 1 < references.count name ↔ 1 < defaults.count name
  distinct : references.Nodup ↔ defaults.Nodup

theorem foldl_add_new {names : List String} (distinct : names.Nodup) (named : List String) :
    names.foldl (fun named name => if name ∈ named then named else named ++ [name]) named =
      named ++ names.filter (· ∉ named) := by
  induction names generalizing named with
  | nil => simp
  | cons name rest ih =>
    obtain ⟨hname, hrest⟩ := List.nodup_cons.mp distinct
    rw [List.foldl_cons, ih hrest]
    by_cases hmem : name ∈ named
    · simp [hmem]
    · -- The name is not met again, so it does not matter to the rest that it is there now.
      have hlater : rest.filter (· ∉ named ++ [name]) = rest.filter (· ∉ named) := by
        refine List.filter_congr fun other hother => ?_
        have hne : other ≠ name := fun heq => hname (heq ▸ hother)
        simp [hne]
      rw [if_neg hmem, hlater]
      simp [hmem]

theorem merges_references (settings : Settings) (found : Resolution) :
    Merges settings.defaults found.references (references settings found) := by
  have horder : references settings found =
      settings.defaults ++ found.references.filter (· ∉ settings.defaults) :=
    foldl_add_new found.nodup_references settings.defaults
  have hdistinct := found.nodup_references.filter (· ∉ settings.defaults)
  refine ⟨horder, fun name => ?_, fun name => ?_, ?_⟩
  · rw [horder]
    by_cases hname : name ∈ settings.defaults <;> simp [hname]
  · rw [horder, List.count_append]
    by_cases hname : name ∈ settings.defaults
    · simp [List.count_eq_zero_of_not_mem, hname]
    · have honce := List.nodup_iff_count_le_one.mp hdistinct name
      rw [List.count_eq_zero_of_not_mem hname]
      omega
  · rw [horder, List.nodup_append]
    refine ⟨fun h => h.1, fun h => ⟨h, hdistinct, ?_⟩⟩
    rintro name hname other hother rfl
    simp [hname] at hother

/-- A compilation fails before it calls the compiler, or calls it once, and then with just the
default references and the resolved ones behind them. -/
theorem compile_refers (engine : Engine) (script output : Path) (session : Session) :
    (∃ failure, (engine.compile script output session).1 = .error failure ∧
      (engine.compile script output session).2.calls = session.calls) ∨
    ∃ full found request files, Source.canonical session.files script = .ok full ∧
      engine.resolve session.files full = .ok found ∧
      (engine.compile script output session).2.calls =
        session.calls ++ [.compile request files] ∧
      Merges engine.settings.defaults found.references request.references := by
  rcases engine.compile_called script output session with
    hfailed | ⟨full, found, files, hlocated, hresolved, hcalls, -⟩
  · exact .inl hfailed
  · exact .inr ⟨full, found, _, files, hlocated, hresolved, hcalls,
      merges_references engine.settings found⟩

/-! ## A default listed twice -/

def listingTwice : Engine := { idle with settings := { defaults := ["a.dll", "a.dll"] } }

/-- What the settings list twice the compiler is given twice. -/
theorem compile_refers_twice :
    ∃ request files, (listingTwice.compile ⟨"/main"⟩ ⟨"/out"⟩ (before (.file []))).2.calls =
        [.compile request files] ∧
      request.references = ["a.dll", "a.dll"] ∧ ¬request.references.Nodup := by
  have hwrite : (before (.file [])).files.write (unitPath ⟨"/main"⟩) (Text.Utf8.encode ownUnit) =
      .ok ((before (.file [])).files.set ["main.norm"] (.file (Text.Utf8.encode ownUnit))) :=
    rootName_unit.write (.inr ⟨[], rfl⟩)
  have hcompile : listingTwice.compile ⟨"/main"⟩ ⟨"/out"⟩ (before (.file [])) =
      listingTwice.build ⟨"/main"⟩ .empty ownUnit ⟨"/out"⟩ (before (.file [])) :=
    compile_ownUnit rfl rfl _
  rw [hcompile, build_of_write hwrite]
  exact ⟨listingTwice.request ⟨"/main"⟩ .empty ⟨"/out"⟩, _, rfl, rfl, by decide⟩

end Engine

end ScriptBuild
