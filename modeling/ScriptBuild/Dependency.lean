import ScriptBuild.Path

/-!
# Dependencies and resolutions

A dependency is known by its key: the name of a library, the text that is shown of a file's path.
Keys are texts and paths are octets, so two files whose paths show the same text have one key
between them, and a library may be named as a file is shown. What is found first under a key stays,
whatever its kind.

A `Resolution` is the list of dependencies found, in the order found. That no key is in it twice is
part of the type, and both ways of adding keep it: `insert?` tells whether the key was new, as the
walk needs to know of a source file, and `insert` does not. The views of a resolution that the
compiler is given, its sources and its references, keep that order.

Three kinds share one list because the order in which they are met is the order in which they are
shown and passed on. A library is passed on as written and has no file. A source file is compiled
with the script, and it is the only kind whose own header is read in turn. A binary is referred to
by the text that is shown of its path. So `reference?` and `source?` between them tell what becomes
of every dependency, and no dependency has both.

**Results.**
* `insert?_eq_none_iff`, `insert?_eq_some_iff`: a dependency is refused exactly when its key is
  present, and otherwise goes to the end.
-/
namespace ScriptBuild

inductive Dependency
  /-- A reference for the compiler, by name. -/
  | library (name : String)
  /-- A source file to compile with the entry script. -/
  | file (path : Path)
  /-- A compiled script module, for the compiler to refer to. -/
  | binary (path : Path)
deriving DecidableEq, Repr, Inhabited

namespace Dependency

/-- What a dependency is known by. -/
def key : Dependency → String
  | .library name => name
  | .file path | .binary path => path.text

/-- The file of a dependency that is one. -/
def path? : Dependency → Option Path
  | .library _ => none
  | .file path | .binary path => some path

/-- The file of a dependency to compile. -/
def source? : Dependency → Option Path
  | .file path => some path
  | _ => none

/-- The text of a dependency to refer to. -/
def reference? : Dependency → Option String
  | .file _ => none
  | dependency => some dependency.key

def render : Dependency → String
  | .library name => "library " ++ name
  | .file path => "script  " ++ path.text
  | .binary path => "binary  " ++ path.text

end Dependency

/-- Dependencies in the order found. -/
structure Resolution where
  deps : List Dependency
  distinct : (deps.map Dependency.key).Nodup
deriving DecidableEq, Repr

namespace Resolution

def empty : Resolution := ⟨[], by simp⟩

instance : Inhabited Resolution := ⟨empty⟩

/-- The keys in the order found. -/
def keys (found : Resolution) : List String := found.deps.map Dependency.key

def contains (found : Resolution) (key : String) : Bool := found.keys.contains key

/-- Adds a dependency at the end, unless its key is present. -/
def insert? (found : Resolution) (dependency : Dependency) : Option Resolution :=
  if h : dependency.key ∈ found.keys then none
  else some
    { deps := found.deps ++ [dependency]
      distinct := by
        rw [List.map_append, List.nodup_append]
        refine ⟨found.distinct, by simp, ?_⟩
        intro a ha b hb hab
        simp only [List.map_cons, List.map_nil, List.mem_singleton] at hb
        exact h (hb ▸ hab ▸ ha) }

def insert (found : Resolution) (dependency : Dependency) : Resolution :=
  (found.insert? dependency).getD found

def size (found : Resolution) : Nat := found.deps.length

/-- The files to compile with the entry script. -/
def sources (found : Resolution) : List Path := found.deps.filterMap Dependency.source?

/-- What the compiler is to refer to. -/
def references (found : Resolution) : List String := found.deps.filterMap Dependency.reference?

theorem insert?_eq_none_iff {found : Resolution} {dependency : Dependency} :
    found.insert? dependency = none ↔ dependency.key ∈ found.keys := by
  unfold insert?
  split <;> simp_all

theorem insert?_eq_some_iff {found after : Resolution} {dependency : Dependency} :
    found.insert? dependency = some after ↔
      dependency.key ∉ found.keys ∧ after.deps = found.deps ++ [dependency] := by
  unfold insert?
  split
  · simp_all
  · rename_i hnew
    constructor
    · intro h
      cases h
      exact ⟨hnew, rfl⟩
    · rintro ⟨-, h⟩
      cases after
      cases h
      rfl

theorem deps_of_insert? {found after : Resolution} {dependency : Dependency}
    (h : found.insert? dependency = some after) : after.deps = found.deps ++ [dependency] :=
  (insert?_eq_some_iff.mp h).2

theorem keys_of_insert? {found after : Resolution} {dependency : Dependency}
    (h : found.insert? dependency = some after) : after.keys = found.keys ++ [dependency.key] := by
  simp [keys, deps_of_insert? h]

end Resolution

end ScriptBuild
