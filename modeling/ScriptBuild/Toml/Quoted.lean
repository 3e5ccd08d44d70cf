/-!
# TOML strings

Four kinds of quoted text: on one line or on several, with escapes or literal. A reader gets the
text behind the opening quotes and gives the string and what follows its closing quotes.

On one line the string ends at the next quote that is not escaped, and a control character other
than a tab is a mistake. On several lines it ends at three quotes, and up to two more belong to it,
so five quotes are a string's last two characters and its end. A newline right behind the opening
quotes is not part of the string, and a carriage return in front of a newline never is.

A backslash at the end of a line joins lines: it takes the blanks in front of the newline, the
newline, and all blanks and newlines up to the next character. Other escapes are the letters of
`escaped?` and the numbers of code points, which must be those of characters; surrogates are none.

Each reader carries what it has read backwards and hands it out turned round at the end, so that a
step is one character, or one escape.
-/
namespace ScriptBuild.Toml.Quoted

/-- A character that may stand unescaped: any but a control character, and the tab. -/
def isPlain (c : Char) : Bool := c == '\t' || (0x20 ≤ c.toNat && c.toNat != 0x7F)

def isSpace (c : Char) : Bool := c == ' ' || c == '\t'

/-- The character that a letter behind a backslash stands for. -/
def escaped? : Char → Option Char
  | 'b' => some '\x08'
  | 'f' => some '\x0C'
  | 'n' => some '\n'
  | 'r' => some '\r'
  | 't' => some '\t'
  | '"' => some '"'
  | '\\' => some '\\'
  | _ => none

def hexValue? (c : Char) : Option Nat :=
  if '0' ≤ c ∧ c ≤ '9' then some (c.toNat - 48)
  else if 'a' ≤ c ∧ c ≤ 'f' then some (c.toNat - 87)
  else if 'A' ≤ c ∧ c ≤ 'F' then some (c.toNat - 55)
  else none

/-- The character whose number hexadecimal digits spell. -/
def numbered? (digits : List Char) : Option Char := do
  let values ← digits.mapM hexValue?
  let value := values.foldl (fun value digit => 16 * value + digit) 0
  if value.isValidChar then some (Char.ofNat value) else none

/-- Reads a string on one line. What is read so far is given backwards. -/
def basic (back : List Char) : List Char → Option (List Char × List Char)
  | '"' :: rest => some (back.reverse, rest)
  | '\\' :: 'u' :: a :: b :: c :: d :: rest =>
    match numbered? [a, b, c, d] with
    | some c => basic (c :: back) rest
    | none => none
  | '\\' :: 'U' :: a :: b :: c :: d :: e :: f :: g :: h :: rest =>
    match numbered? [a, b, c, d, e, f, g, h] with
    | some c => basic (c :: back) rest
    | none => none
  | '\\' :: letter :: rest =>
    match escaped? letter with
    | some c => basic (c :: back) rest
    | none => none
  | c :: rest => if isPlain c then basic (c :: back) rest else none
  | [] => none

def literal (back : List Char) : List Char → Option (List Char × List Char)
  | '\'' :: rest => some (back.reverse, rest)
  | c :: rest => if isPlain c then literal (c :: back) rest else none
  | [] => none

/-- Whether a line ends here, but for space. -/
def endsLine (cs : List Char) : Bool :=
  match cs.dropWhile isSpace with
  | '\n' :: _ | '\r' :: '\n' :: _ => true
  | _ => false

/-- Reads a string on several lines. While `skipping`, behind a backslash that ends a line, blanks
and newlines are left out. One or two quotes may stand before the closing three. -/
def basicLines (skipping : Bool) (back : List Char) : List Char → Option (List Char × List Char)
  | '\r' :: '\n' :: rest => basicLines skipping (if skipping then back else '\n' :: back) rest
  | '\n' :: rest => basicLines skipping (if skipping then back else '\n' :: back) rest
  | '"' :: '"' :: '"' :: '"' :: '"' :: rest => some (('"' :: '"' :: back).reverse, rest)
  | '"' :: '"' :: '"' :: '"' :: rest => some (('"' :: back).reverse, rest)
  | '"' :: '"' :: '"' :: rest => some (back.reverse, rest)
  | '\\' :: 'u' :: a :: b :: c :: d :: rest =>
    match numbered? [a, b, c, d] with
    | some c => basicLines false (c :: back) rest
    | none => none
  | '\\' :: 'U' :: a :: b :: c :: d :: e :: f :: g :: h :: rest =>
    match numbered? [a, b, c, d, e, f, g, h] with
    | some c => basicLines false (c :: back) rest
    | none => none
  | '\\' :: letter :: rest =>
    if endsLine (letter :: rest) then
      if letter = '\n' ∨ isSpace letter then basicLines true back rest
      else match rest with
        | _ :: rest => basicLines true back rest
        | [] => none
    else match escaped? letter with
      | some c => basicLines false (c :: back) rest
      | none => none
  | c :: rest =>
    if skipping && isSpace c then basicLines true back rest
    else if isPlain c then basicLines false (c :: back) rest
    else none
  | [] => none

/-- Reads a literal string on several lines. -/
def literalLines (back : List Char) : List Char → Option (List Char × List Char)
  | '\r' :: '\n' :: rest => literalLines ('\n' :: back) rest
  | '\'' :: '\'' :: '\'' :: '\'' :: '\'' :: rest => some (('\'' :: '\'' :: back).reverse, rest)
  | '\'' :: '\'' :: '\'' :: '\'' :: rest => some (('\'' :: back).reverse, rest)
  | '\'' :: '\'' :: '\'' :: rest => some (back.reverse, rest)
  | c :: rest => if c = '\n' || isPlain c then literalLines (c :: back) rest else none
  | [] => none

def dropNewline : List Char → List Char
  | '\n' :: rest => rest
  | '\r' :: '\n' :: rest => rest
  | cs => cs

/-- Reads a string on one line, with its quotes. -/
def line? : List Char → Option (List Char × List Char)
  | '"' :: rest => basic [] rest
  | '\'' :: rest => literal [] rest
  | _ => none

/-- Reads a string of any kind, with its quotes. -/
def any? : List Char → Option (List Char × List Char)
  | '"' :: '"' :: '"' :: rest => basicLines false [] (dropNewline rest)
  | '\'' :: '\'' :: '\'' :: rest => literalLines [] (dropNewline rest)
  | cs => line? cs

end ScriptBuild.Toml.Quoted
