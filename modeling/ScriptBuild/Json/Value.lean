import ScriptBuild.Json.Token

/-!
# JSON values

Tokens are put together to a value by a stack of the containers that are still open. Nothing is
judged beyond the grammar: members keep their order and may repeat, strings may stand for no text,
numbers may be out of range. What is wanted of a value is asked of it afterwards.

A reader has a stack of open containers and a notion of what may come next, and takes one token
after the other. So the depth of a value is no matter of the reader, and a text of any depth is
read; whoever wants a value of bounded depth asks `isSound` for it. The reader is left with a value
if all containers are closed and there is exactly one.

Records are read from objects and from arrays alike. In an object a field is found by its name and
may be there once, and members of other names are passed over; in an array fields come in their
order, and the array may be shorter than the list of fields but not longer. An absent field is not
the same as one that is `null`, and which of the two will do is for the record to say.
-/
namespace ScriptBuild.Json

open Text.Utf8 (Bytes)

inductive Value
  | null
  | bool (value : Bool)
  | number (numeral : Numeral)
  | string (word : Word)
  | array (items : List Value)
  | object (members : List (Word × Value))
deriving Repr, Inhabited

/-- An open container. What it holds so far is given backwards. -/
inductive Frame
  | array (back : List Value)
  | object (back : List (Word × Value))
  /-- An object that waits for the value of a member. -/
  | member (back : List (Word × Value)) (key : Word)

/-- What may come next. -/
inductive Expected
  | value
  | itemOrEnd
  | keyOrEnd
  | key
  | colon (key : Word)
  /-- A comma or the end of the innermost container. -/
  | commaOrEnd
  /-- The end of the text, behind this value. -/
  | finish (value : Value)

/-- A reader between two tokens: the open containers, the innermost first. -/
structure Reader where
  stack : List Frame
  expected : Expected

namespace Reader

/-- A complete value goes into the innermost container. -/
def deliver (value : Value) : List Frame → Option Reader
  | [] => some ⟨[], .finish value⟩
  | .array back :: outer => some ⟨.array (value :: back) :: outer, .commaOrEnd⟩
  | .member back key :: outer => some ⟨.object ((key, value) :: back) :: outer, .commaOrEnd⟩
  | .object _ :: _ => none

/-- Takes the first token of a value. -/
def begin (stack : List Frame) : Token → Option Reader
  | .null => deliver .null stack
  | .bool value => deliver (.bool value) stack
  | .number numeral => deliver (.number numeral) stack
  | .string word => deliver (.string word) stack
  | .openArray => some ⟨.array [] :: stack, .itemOrEnd⟩
  | .openObject => some ⟨.object [] :: stack, .keyOrEnd⟩
  | _ => none

def step (reader : Reader) (token : Token) : Option Reader :=
  match reader.expected, token, reader.stack with
  | .value, token, stack => begin stack token
  | .itemOrEnd, .closeArray, .array back :: outer => deliver (.array back.reverse) outer
  | .itemOrEnd, token, stack => begin stack token
  | .keyOrEnd, .closeObject, .object back :: outer => deliver (.object back.reverse) outer
  | .keyOrEnd, .string key, stack | .key, .string key, stack => some ⟨stack, .colon key⟩
  | .colon key, .colon, .object back :: outer => some ⟨.member back key :: outer, .value⟩
  | .commaOrEnd, .comma, .array back :: outer => some ⟨.array back :: outer, .value⟩
  | .commaOrEnd, .comma, .object back :: outer => some ⟨.object back :: outer, .key⟩
  | .commaOrEnd, .closeArray, .array back :: outer => deliver (.array back.reverse) outer
  | .commaOrEnd, .closeObject, .object back :: outer => deliver (.object back.reverse) outer
  | _, _, _ => none

/-- The value that has been read, if one is complete. -/
def result? (reader : Reader) : Option Value :=
  match reader.expected with
  | .finish value => some value
  | _ => none

end Reader

namespace Value

def ofTokens? (tokens : List Token) : Option Value :=
  (tokens.foldlM Reader.step ⟨[], .value⟩).bind Reader.result?

def ofBytes? (bytes : Bytes) : Option Value := (Token.ofBytes bytes).bind ofTokens?

def ofText? (text : String) : Option Value := ofBytes? (Text.Utf8.encode text)

def text? : Value → Option String
  | .string word => word
  | _ => none

def bool? : Value → Option Bool
  | .bool value => some value
  | _ => none

def items? : Value → Option (List Value)
  | .array items => some items
  | _ => none

/-- The values of named fields, each `none` if it is absent. An object gives a field by name, at
most once, and may hold others; an array gives them by position. -/
def fields? (names : List String) : Value → Option (List (Option Value))
  | .object members => do
    let members ← members.mapM fun (key, value) => key.map (·, value)
    names.mapM fun name =>
      match members.filter (·.1 == name) with
      | [] => some none
      | [(_, value)] => some (some value)
      | _ => none
  | .array items =>
    if items.length ≤ names.length then
      some ((List.range names.length).map fun position => items[position]?)
    else none
  | _ => none

/-- Whether a value nests at most `depth` containers, all its strings stand for text, and all its
numbers fit a double. -/
def isSound (depth : Nat) (value : Value) : Bool :=
  match value with
  | .null | .bool _ => true
  | .number numeral => numeral.fitsDouble
  | .string word => word.isSome
  | .array items =>
    match depth with
    | 0 => false
    | depth + 1 => items.all (isSound depth)
  | .object members =>
    match depth with
    | 0 => false
    | depth + 1 => members.all fun (key, value) => key.isSome && isSound depth value

end Value

end ScriptBuild.Json
