import ScriptBuild.Text.Ranges

/-!
# Blanks, trimming and words

White space is Unicode's `White_Space` property. Header lines, directive arguments and compiler
output are trimmed by it; a word is a longest run without it.

A blank is defined by its code point, from a table, and a text is looked at character by character:
no character is blank because of its neighbours. Line terminators are blanks, so trimming a line
also takes what ends it, and a text with nothing but line ends in it is all blank.

The table is complete and in order, which lets `decide` settle membership of single characters.

**Results.**
* `isBlank_newline`, `isBlank_return`: both line terminators are blank.
* `trimChars_of_solid`: a text that neither starts nor ends with a blank is its own trimmed form.
-/
namespace ScriptBuild.Text

/-- The code points of `White_Space`. -/
def blankRanges : Ranges :=
  [(0x9, 0xD), (0x20, 0x20), (0x85, 0x85), (0xA0, 0xA0), (0x1680, 0x1680), (0x2000, 0x200A),
   (0x2028, 0x2029), (0x202F, 0x202F), (0x205F, 0x205F), (0x3000, 0x3000)]

def isBlank (c : Char) : Bool := blankRanges.covers c

theorem isBlank_newline : isBlank '\n' = true := by decide

theorem isBlank_return : isBlank '\r' = true := by decide

def trimEnd (cs : List Char) : List Char := (cs.reverse.dropWhile isBlank).reverse

/-- Drops the blanks at both ends. -/
def trimChars (cs : List Char) : List Char := trimEnd (cs.dropWhile isBlank)

def trim (text : String) : String := String.ofList (trimChars text.toList)

def allBlank (text : String) : Bool := text.toList.all isBlank

/-- The first word, empty if there is none. -/
def firstWord (text : String) : String :=
  String.ofList ((text.toList.dropWhile isBlank).takeWhile (!isBlank ·))

theorem trimChars_of_solid {cs : List Char} (first : ∀ c ∈ cs.head?, isBlank c = false)
    (last : ∀ c ∈ cs.getLast?, isBlank c = false) : trimChars cs = cs := by
  have hstart : cs.dropWhile isBlank = cs := by
    cases cs with
    | nil => rfl
    | cons c cs => simp [first c (by simp)]
  have hend : cs.reverse.dropWhile isBlank = cs.reverse := by
    cases hr : cs.reverse with
    | nil => rfl
    | cons c r =>
      have : cs.getLast? = some c := by rw [← List.head?_reverse, hr]; rfl
      simp [last c (by simp [this])]
  simp [trimChars, trimEnd, hstart, hend]

end ScriptBuild.Text
