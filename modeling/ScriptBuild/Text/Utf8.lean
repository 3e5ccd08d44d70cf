/-!
# UTF-8

A decoder reads one octet at a time. Every well-formed sequence gives its character; every longest
ill-formed part gives one mark. Two readings follow: `decode?` refuses a text with a mark, and
`decodeLossy` shows a replacement character in its place.

Between octets the decoder is in one of few states: no character is begun, or so many octets are
owed to one, the next of them within a range. The ranges of second octets are what keeps overlong
forms, surrogates and numbers past the last character out, so nothing has to be checked at the end.
An octet that does not continue what is begun ends that one as ill formed and is then read afresh.

Encoding goes character by character and knows no errors, because a `Char` is never a surrogate.
What is encoded is read back by both readings (`Proofs.Text.Encoding`), so a text is as good as its
octets, and paths and arguments made from texts can be kept as octets.

**Results.**
* `decodeFrom_append_newline`: a line feed always ends what came before it, so ill-formed octets on
  one line cannot change the next.
* `length_decodeLossy_le`: a text has no more characters than octets.
-/
namespace ScriptBuild.Text.Utf8

/-- Octets. -/
abbrev Bytes := List UInt8

/-- What an unfinished character still needs: the bits read so far, the number of octets owed
(always at least one, stored as one less) and the range the next of them must lie in. -/
structure Owed where
  bits : Nat
  more : Nat
  low : Nat
  high : Nat
deriving DecidableEq, Repr

/-- What a first octet opens: a whole character, a longer sequence, or nothing. -/
inductive Opening
  | whole (c : Char)
  | owed (state : Owed)
  | illFormed
deriving DecidableEq, Repr

/-- Reads the first octet of a character. The ranges leave out overlong forms, surrogates and
code points past the last one. -/
def opening (octet : UInt8) : Opening :=
  let b := octet.toNat
  if b < 0x80 then .whole (Char.ofNat b)
  else if b < 0xC2 then .illFormed
  else if b < 0xE0 then .owed ⟨b - 0xC0, 0, 0x80, 0xBF⟩
  else if b = 0xE0 then .owed ⟨0, 1, 0xA0, 0xBF⟩
  else if b = 0xED then .owed ⟨0xD, 1, 0x80, 0x9F⟩
  else if b < 0xF0 then .owed ⟨b - 0xE0, 1, 0x80, 0xBF⟩
  else if b = 0xF0 then .owed ⟨0, 2, 0x90, 0xBF⟩
  else if b < 0xF4 then .owed ⟨b - 0xF0, 2, 0x80, 0xBF⟩
  else if b = 0xF4 then .owed ⟨4, 2, 0x80, 0x8F⟩
  else .illFormed

/-- Characters read, with `none` for each longest ill-formed part. -/
abbrev Marked := List (Option Char)

/-- Between characters: what an octet gives, and what is owed after it. -/
def start (octet : UInt8) : Marked × Option Owed :=
  match opening octet with
  | .whole c => ([some c], none)
  | .owed state => ([], some state)
  | .illFormed => ([none], none)

/-- One octet: the characters it completes, and what is owed after it. An octet that does not
continue an unfinished character ends that one as ill-formed and is read afresh. -/
def step (state : Option Owed) (octet : UInt8) : Marked × Option Owed :=
  match state with
  | none => start octet
  | some owed =>
    if owed.low ≤ octet.toNat ∧ octet.toNat ≤ owed.high then
      let bits := owed.bits * 64 + octet.toNat % 64
      match owed.more with
      | 0 => ([some (Char.ofNat bits)], none)
      | more + 1 => ([], some ⟨bits, more, 0x80, 0xBF⟩)
    else
      let (marked, next) := start octet
      (none :: marked, next)

/-- What the end of the text gives. -/
def finish : Option Owed → Marked
  | none => []
  | some _ => [none]

def decodeFrom (state : Option Owed) : Bytes → Marked
  | [] => finish state
  | octet :: rest =>
    let (marked, next) := step state octet
    marked ++ decodeFrom next rest

/-- The text of octets that are well formed throughout. -/
def decode? (bytes : Bytes) : Option String :=
  ((decodeFrom none bytes).mapM id).map String.ofList

/-- The characters of octets, with `U+FFFD` for each longest ill-formed part. -/
def lossyChars (bytes : Bytes) : List Char :=
  (decodeFrom none bytes).map (·.getD '\uFFFD')

/-- The text of octets, with `U+FFFD` for each longest ill-formed part. -/
def decodeLossy (bytes : Bytes) : String := String.ofList (lossyChars bytes)

/-- The octets of a list of characters. -/
def encodeChars (cs : List Char) : Bytes := cs.flatMap String.utf8EncodeChar

def encode (text : String) : Bytes := encodeChars text.toList

/-- An owed range never reaches below the continuation octets. -/
def Owed.Sound (owed : Owed) : Prop := 0x80 ≤ owed.low

theorem opening_sound {octet : UInt8} {owed : Owed} (h : opening octet = .owed owed) :
    owed.Sound := by
  unfold opening at h
  simp only at h
  repeat' split at h
  all_goals simp only [Opening.owed.injEq, reduceCtorEq] at h
  all_goals rw [← h, Owed.Sound]
  all_goals dsimp only
  all_goals omega

theorem step_newline (state : Option Owed) (sound : ∀ owed ∈ state, owed.Sound) :
    step state 0x0A = (finish state ++ [some '\n'], none) := by
  have hstart : start 0x0A = ([some '\n'], none) := by decide
  cases state with
  | none => simp [step, hstart, finish]
  | some owed =>
    have h : 0x80 ≤ owed.low := sound owed rfl
    have hno : ¬(owed.low ≤ (0x0A : UInt8).toNat ∧ (0x0A : UInt8).toNat ≤ owed.high) := by
      have : (0x0A : UInt8).toNat = 10 := rfl
      omega
    rw [step, if_neg hno, hstart]
    rfl

theorem step_sound {state : Option Owed} {octet : UInt8} :
    ∀ owed ∈ (step state octet).2, owed.Sound := by
  intro owed h
  have hstart : ∀ owed ∈ (start octet).2, owed.Sound := by
    intro owed h
    unfold start at h
    split at h
    · simp at h
    · rename_i s hs
      cases h
      exact opening_sound hs
    · simp at h
  cases state with
  | none => exact hstart owed h
  | some s =>
    unfold step at h
    simp only at h
    split at h
    · split at h
      · simp at h
      · cases h
        simp [Owed.Sound]
    · exact hstart owed h

/-- A line feed ends whatever was unfinished, and decoding goes on afresh behind it. -/
theorem decodeFrom_append_newline (state : Option Owed) (sound : ∀ owed ∈ state, owed.Sound)
    (a b : Bytes) :
    decodeFrom state (a ++ 0x0A :: b) = decodeFrom state a ++ some '\n' :: decodeFrom none b := by
  induction a generalizing state with
  | nil => simp [decodeFrom, step_newline state sound]
  | cons octet a ih => simp [decodeFrom, ih _ step_sound]

/-- The characters that are still to come of an unfinished one: it or the mark in its place. -/
def pendingLength : Option Owed → Nat
  | none => 0
  | some _ => 1

theorem length_step_le (state : Option Owed) (octet : UInt8) :
    (step state octet).1.length + pendingLength (step state octet).2 ≤ pendingLength state + 1 := by
  have hstart : (start octet).1.length + pendingLength (start octet).2 = 1 := by
    unfold start
    split <;> rfl
  cases state with
  | none => exact Nat.le_of_eq hstart
  | some owed =>
    unfold step
    simp only
    split
    · split <;> simp [pendingLength]
    · simp only [List.length_cons, pendingLength] at hstart ⊢
      omega

theorem length_decodeFrom_le (state : Option Owed) (bytes : Bytes) :
    (decodeFrom state bytes).length ≤ pendingLength state + bytes.length := by
  induction bytes generalizing state with
  | nil => cases state <;> simp [decodeFrom, finish, pendingLength]
  | cons octet rest ih =>
    have hstep := length_step_le state octet
    have hrest := ih (step state octet).2
    simp only [decodeFrom, List.length_append, List.length_cons]
    omega

theorem length_decodeLossy_le (bytes : Bytes) : (decodeLossy bytes).length ≤ bytes.length := by
  have h := length_decodeFrom_le none bytes
  simpa [decodeLossy, lossyChars, pendingLength] using h

end ScriptBuild.Text.Utf8
