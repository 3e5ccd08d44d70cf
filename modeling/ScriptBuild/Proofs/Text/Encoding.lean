import Mathlib
import ScriptBuild.Text.Utf8

/-!
# Encoded texts

The octets of a text are read back as that text, character by character: the first octet of a
character says how many follow and in which range the second one lies, and each that follows adds
six bits.

A character takes one to four octets, by its code point, and the proof goes by these four cases. In
each of them the octets are sums of a lead and six bits, so what is needed is arithmetic on numbers
below 64, and that the second octet is in the range that rules out overlong forms and surrogates.
For a text the induction is on its characters: what has been read leaves exactly the encoding of the
rest.

**Results.**
* `decodeFrom_encodeChar`: the octets of a character give that character.
* `decodeLossy_encode`, `decode?_encode`: what was encoded is well formed, and is read back.
-/
namespace ScriptBuild.Text.Utf8

variable {bits more low high payload : Nat}

theorem toNat_ofNat_of_lt {n : Nat} (h : n < 256) : (UInt8.ofNat n).toNat = n := by
  rw [UInt8.toNat_ofNat']
  omega

theorem step_continuation (hlow : low ≤ payload + 0x80) (hhigh : payload + 0x80 ≤ high)
    (hpayload : payload < 64) :
    step (some ⟨bits, more, low, high⟩) (UInt8.ofNat (payload + 0x80)) =
      match more with
      | 0 => ([some (Char.ofNat (bits * 64 + payload))], none)
      | more + 1 => ([], some ⟨bits * 64 + payload, more, 0x80, 0xBF⟩) := by
  have hmod : (payload + 0x80) % 64 = payload := by omega
  have hoctet := toNat_ofNat_of_lt (n := payload + 0x80) (by omega)
  cases more with
  | zero => simp only [step, hoctet, hlow, hhigh, hmod, and_self, if_true]
  | succ more => simp only [step, hoctet, hlow, hhigh, hmod, and_self, if_true]

theorem decodeFrom_last (hlow : low ≤ payload + 0x80) (hhigh : payload + 0x80 ≤ high)
    (hpayload : payload < 64) (rest : Bytes) :
    decodeFrom (some ⟨bits, 0, low, high⟩) (UInt8.ofNat (payload + 0x80) :: rest) =
      some (Char.ofNat (bits * 64 + payload)) :: decodeFrom none rest := by
  rw [decodeFrom, step_continuation hlow hhigh hpayload]
  rfl

theorem decodeFrom_next (hlow : low ≤ payload + 0x80) (hhigh : payload + 0x80 ≤ high)
    (hpayload : payload < 64) (rest : Bytes) :
    decodeFrom (some ⟨bits, more + 1, low, high⟩) (UInt8.ofNat (payload + 0x80) :: rest) =
      decodeFrom (some ⟨bits * 64 + payload, more, 0x80, 0xBF⟩) rest := by
  rw [decodeFrom, step_continuation hlow hhigh hpayload]
  rfl

theorem decodeFrom_opening {octet : UInt8} {owed : Owed} (h : opening octet = .owed owed)
    (rest : Bytes) : decodeFrom none (octet :: rest) = decodeFrom (some owed) rest := by
  rw [decodeFrom, step, start, h]
  rfl

/-! ## First octets -/

theorem opening_two {lead : Nat} (hleast : 2 ≤ lead) (hmost : lead < 32) :
    opening (UInt8.ofNat (lead + 0xC0)) = .owed ⟨lead, 0, 0x80, 0xBF⟩ := by
  have hoctet := toNat_ofNat_of_lt (n := lead + 0xC0) (by omega)
  have hbits : lead + 0xC0 - 0xC0 = lead := by omega
  simp only [opening, hoctet]
  rw [if_neg (by omega), if_neg (by omega), if_pos (by omega), hbits]

/-- The second octet of three leaves out overlong forms and surrogates. -/
theorem opening_three (lead second : Nat) (hlead : lead < 16) (hsecond : second < 64)
    (hleast : 0x20 ≤ lead * 64 + second) (hscalar : lead * 64 + second < 0x360 ∨
      0x37F < lead * 64 + second) :
    ∃ low high, opening (UInt8.ofNat (lead + 0xE0)) = .owed ⟨lead, 1, low, high⟩ ∧
      low ≤ second + 0x80 ∧ second + 0x80 ≤ high := by
  have hoctet := toNat_ofNat_of_lt (n := lead + 0xE0) (by omega)
  simp only [opening, hoctet]
  rw [if_neg (by omega), if_neg (by omega), if_neg (by omega)]
  split
  · exact ⟨0xA0, 0xBF, by simp; omega, by omega, by omega⟩
  split
  · exact ⟨0x80, 0x9F, by simp; omega, by omega, by omega⟩
  · rw [if_pos (by omega)]
    exact ⟨0x80, 0xBF, by simp, by omega, by omega⟩

/-- The second octet of four leaves out overlong forms and what is past the last code point. -/
theorem opening_four (lead second : Nat) (hsecond : second < 64)
    (hleast : 0x10 ≤ lead * 64 + second) (hmost : lead * 64 + second < 0x110) :
    ∃ low high, opening (UInt8.ofNat (lead + 0xF0)) = .owed ⟨lead, 2, low, high⟩ ∧
      low ≤ second + 0x80 ∧ second + 0x80 ≤ high := by
  have hoctet := toNat_ofNat_of_lt (n := lead + 0xF0) (by omega)
  simp only [opening, hoctet]
  rw [if_neg (by omega), if_neg (by omega), if_neg (by omega), if_neg (by omega),
    if_neg (by omega), if_neg (by omega)]
  split
  · exact ⟨0x90, 0xBF, by simp; omega, by omega, by omega⟩
  split
  · exact ⟨0x80, 0xBF, by simp, by omega, by omega⟩
  · rw [if_pos (by omega)]
    exact ⟨0x80, 0x8F, by simp; omega, by omega, by omega⟩

/-! ## Characters and texts -/

theorem decodeFrom_encodeChar (c : Char) (rest : Bytes) :
    decodeFrom none (String.utf8EncodeChar c ++ rest) = some c :: decodeFrom none rest := by
  have hchar : ∀ {n : Nat}, n = c.val.toNat → Char.ofNat n = c := by
    rintro n rfl
    exact Char.ofNat_toNat c
  have hvalid : c.val.toNat < 0xD800 ∨ 0xDFFF < c.val.toNat ∧ c.val.toNat < 0x110000 := c.valid
  -- One case for each number of octets, by the size of the code point.
  unfold String.utf8EncodeChar
  generalize c.val.toNat = v at *
  dsimp only
  split
  · have hoctet := toNat_ofNat_of_lt (n := v) (by omega)
    have hopening : opening (UInt8.ofNat v) = .whole c := by
      simp only [opening, hoctet]
      rw [if_pos (by omega), hchar rfl]
    rw [List.singleton_append, decodeFrom, step, start, hopening]
    rfl
  split
  · rw [List.cons_append, decodeFrom_opening (opening_two (by omega) (by omega)),
      List.singleton_append, decodeFrom_last (by omega) (by omega) (by omega), hchar (by omega)]
  split
  · obtain ⟨low, high, hopening, hlow, hhigh⟩ :=
      opening_three (v / 4096 % 16) (v / 64 % 64) (by omega) (by omega) (by omega) (by omega)
    rw [List.cons_append, decodeFrom_opening hopening, List.cons_append,
      decodeFrom_next hlow hhigh (by omega), List.singleton_append,
      decodeFrom_last (by omega) (by omega) (by omega), hchar (by omega)]
  · obtain ⟨low, high, hopening, hlow, hhigh⟩ :=
      opening_four (v / 262144 % 8) (v / 4096 % 64) (by omega) (by omega) (by omega)
    rw [List.cons_append, decodeFrom_opening hopening, List.cons_append,
      decodeFrom_next hlow hhigh (by omega), List.cons_append,
      decodeFrom_next (by omega) (by omega) (by omega), List.singleton_append,
      decodeFrom_last (by omega) (by omega) (by omega), hchar (by omega)]

theorem decodeFrom_encodeChars (cs : List Char) :
    decodeFrom none (encodeChars cs) = cs.map some := by
  induction cs with
  | nil => rfl
  | cons c cs ih =>
    have hcons : encodeChars (c :: cs) = String.utf8EncodeChar c ++ encodeChars cs := rfl
    rw [hcons, decodeFrom_encodeChar, ih, List.map_cons]

theorem lossyChars_encodeChars (cs : List Char) : lossyChars (encodeChars cs) = cs := by
  simp [lossyChars, decodeFrom_encodeChars]

@[simp] theorem decodeLossy_encode (text : String) : decodeLossy (encode text) = text := by
  simp [decodeLossy, encode, lossyChars_encodeChars]

theorem decode?_encode (text : String) : decode? (encode text) = some text := by
  have hmap : ∀ cs : List Char, (cs.map some).mapM id = some cs := by
    intro cs
    induction cs with
    | nil => rfl
    | cons c cs ih => simp [ih]
  rw [decode?, encode, decodeFrom_encodeChars, hmap, Option.map_some, String.ofList_toList]

@[simp] theorem encode_inj {text other : String} : encode text = encode other ↔ text = other :=
  ⟨fun h => Option.some.inj (by rw [← decode?_encode, h, decode?_encode]), congrArg encode⟩

end ScriptBuild.Text.Utf8
