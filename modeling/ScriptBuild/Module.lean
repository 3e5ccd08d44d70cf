/-!
# Compiled modules

What a module's metadata tells about its exported types, and which of its methods a run starts. The
entry point is a public static `Main` of a class, without parameters or with one array of texts. Of
several classes with one, the class of least name is taken, whatever order the types are listed in.

A type is listed with what its kind is and with its methods; a method with its visibility, its
parameters and what it returns. Types that play no part in the choice of an entry point are kept by
name only (`TypeRef.other`). Names of types come in a full and in a short form, and both are read as
the same type.

An entry point is found by one pass over the candidates that keeps the least so far, so nothing has
to be put in order. Comparing is by code points, as texts are compared, not by any collation. A
class offers its first method that qualifies and no other; if two classes share the least name, the
first of them in the list is taken. `Proofs.Module.EntryPoint` shows that putting the classes in
order by name and taking the first that offers one comes to the same.

**Results.**
* `least_mem`: the entry point chosen is one of the candidates.
* `least_le`: no candidate has a lesser type name.
-/
namespace ScriptBuild

/-- A type as metadata names it. -/
inductive TypeRef
  | void
  | int32
  | stringArray
  | other (name : String)
deriving DecidableEq, Repr, Inhabited

def TypeRef.ofName (name : String) : TypeRef :=
  if name = "System.Void" ∨ name = "void" then .void
  else if name = "System.Int32" ∨ name = "int" then .int32
  else if name = "System.String[]" ∨ name = "string[]" then .stringArray
  else .other name

structure MethodInfo where
  name : String
  isPublic : Bool
  isStatic : Bool
  parameters : List TypeRef
  returnType : TypeRef
deriving DecidableEq, Repr, Inhabited

structure TypeInfo where
  name : String
  isClass : Bool
  methods : List MethodInfo
deriving DecidableEq, Repr, Inhabited

/-- The method a run starts. -/
structure EntryPoint where
  typeName : String
  method : String
  takesArgs : Bool
  returnsInt : Bool
deriving DecidableEq, Repr, Inhabited

namespace EntryPoint

/-- Whether a method can start a run. -/
def qualifies (method : MethodInfo) : Bool :=
  method.name == "Main" && method.isPublic && method.isStatic &&
    (method.parameters == [] || method.parameters == [.stringArray])

/-- The entry point a type offers: its first method that qualifies, if it is a class. -/
def ofType? (type : TypeInfo) : Option EntryPoint :=
  if type.isClass then
    (type.methods.find? qualifies).map fun method =>
      { typeName := type.name
        method := method.name
        takesArgs := !method.parameters.isEmpty
        returnsInt := method.returnType == .int32 }
  else none

def candidates (types : List TypeInfo) : List EntryPoint := types.filterMap ofType?

/-- The one of least type name, the first of those that share it. -/
def least : List EntryPoint → Option EntryPoint
  | [] => none
  | entry :: rest =>
    match least rest with
    | none => some entry
    | some best => if best.typeName < entry.typeName then some best else some entry

def find? (types : List TypeInfo) : Option EntryPoint := least (candidates types)

theorem least_eq_none {entries : List EntryPoint} : least entries = none ↔ entries = [] := by
  cases entries with
  | nil => simp [least]
  | cons entry rest =>
    simp only [least, reduceCtorEq, iff_false]
    split
    · simp
    · split <;> simp

theorem least_mem {entries : List EntryPoint} {best : EntryPoint}
    (h : least entries = some best) : best ∈ entries := by
  induction entries generalizing best with
  | nil => simp [least] at h
  | cons entry rest ih =>
    simp only [least] at h
    split at h
    · cases h; simp
    · rename_i other ho
      split at h
      · cases h; exact List.mem_cons_of_mem _ (ih ho)
      · cases h; simp

theorem least_le {entries : List EntryPoint} {best entry : EntryPoint}
    (h : least entries = some best) (mem : entry ∈ entries) : ¬entry.typeName < best.typeName := by
  induction entries generalizing best with
  | nil => simp at mem
  | cons first rest ih =>
    simp only [least] at h
    split at h
    · rename_i hn
      rw [least_eq_none] at hn
      subst hn
      cases h
      simp only [List.mem_singleton] at mem
      subst mem
      exact String.lt_irrefl _
    · rename_i other ho
      split at h
      · rename_i hlt
        cases h
        rcases List.mem_cons.mp mem with rfl | mem
        · exact String.lt_asymm hlt
        · exact ih ho mem
      · rename_i hle
        cases h
        rcases List.mem_cons.mp mem with rfl | mem
        · exact String.lt_irrefl _
        · intro hlt
          by_cases hfirst : first.typeName < other.typeName
          · exact ih ho mem (String.lt_trans hlt hfirst)
          · exact ih ho mem (String.le_antisymm hle hfirst ▸ hlt)

end EntryPoint

end ScriptBuild
