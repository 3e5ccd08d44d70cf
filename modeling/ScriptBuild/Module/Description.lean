import ScriptBuild.Json.Value
import ScriptBuild.Module

/-!
# Module descriptions

A module host describes a module by a JSON record: `types`, each with `name`, `is_class` and
`methods`, each of those with `name`, `is_public`, `is_static`, `parameters` and `return_type`. A
flag that is absent is false and an absent list is empty; names and return types are required.

As with every record a host leaves, an object is read by field names and an array by position, and
fields that mean nothing here are passed over in an object. A flag that is present has to be a truth
value and a list that is present an array; `null` is neither. One faulty method makes the
description unreadable as a whole: a module is not opened with part of its types.

Parameters and return types are names, full or short, read by `TypeRef.ofName`; a name that means
nothing to the choice of an entry point is kept. What is read is only the form. Whether the types
exist, and whether a class has two methods of one name, is the host's affair.
-/
namespace ScriptBuild.Module

open Text.Utf8 (Bytes)
open Json (Value)

/-- The value of a field that may be absent. A present one has to be readable. -/
def optionalField (read : Value → Option α) (absent : α) : Option Value → Option α
  | none => some absent
  | some value => read value

/-- Reads a list of values. -/
def listOf (read : Value → Option α) (value : Value) : Option (List α) :=
  value.items?.bind (·.mapM read)

def typeRef? (value : Value) : Option TypeRef := value.text?.map TypeRef.ofName

def method? (value : Value) : Option MethodInfo := do
  match ← value.fields? ["name", "is_public", "is_static", "parameters", "return_type"] with
  | [some name, isPublic, isStatic, parameters, some returnType] =>
    return {
      name := ← name.text?
      isPublic := ← optionalField Value.bool? false isPublic
      isStatic := ← optionalField Value.bool? false isStatic
      parameters := ← optionalField (listOf typeRef?) [] parameters
      returnType := ← typeRef? returnType }
  | _ => none

def type? (value : Value) : Option TypeInfo := do
  match ← value.fields? ["name", "is_class", "methods"] with
  | [some name, isClass, methods] =>
    return {
      name := ← name.text?
      isClass := ← optionalField Value.bool? false isClass
      methods := ← optionalField (listOf method?) [] methods }
  | _ => none

def description? (value : Value) : Option (List TypeInfo) := do
  match ← value.fields? ["types"] with
  | [types] => optionalField (listOf type?) [] types
  | _ => none

def describe? (bytes : Bytes) : Option (List TypeInfo) := (Value.ofBytes? bytes).bind description?

end ScriptBuild.Module
