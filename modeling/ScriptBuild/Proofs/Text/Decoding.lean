import ScriptBuild.Proofs.Text.Encoding

/-!
# What octets are read as

Octets are read off from the front. A character is read off its encoding and off nothing else, a
mark off some octets that encode none, and what stands behind is read as if it stood alone. So the
well-formed octets are the encodings of texts, a newline is read off a line feed only, and octets
are read line by line.

A reading step takes at least one octet. It gives the character that the octets in front encode, or
a mark for as many of them as could have been the start of one; what comes next starts fresh. So the
induction is on the octets, with the length of a step as the measure, and one lemma says what a step
can be.

Two readers are compared: one that gives nothing for ill-formed octets, and one that marks them.
They agree on well-formed ones. A mark is a character as well and may itself be encoded, so it
cannot be told from the reading alone whether something was ill-formed.

**Results.**
* `decodeFrom_cons`: what comes first, and off which octets it is read.
* `infix_of_mem_lossyChars`: every character is read off its octets, or is shown for a mark.
* `decode?_eq_some_iff`: the octets of a text, and no others, are read as that text.
* `lossyChars_of_decode?`: what is well formed is read the same whether or not that is required.
* `splitOn_lossyChars`: the lines of what is read are what the lines of the octets are read as.
-/
namespace ScriptBuild.Text.Utf8

variable {octet second : UInt8} {owed : Owed} {tail bytes : Bytes} {entry : Option Char}
  {rest : Marked}

/-! ## Characters and their octets -/

/-- An octet that may follow the second one of a character. -/
def Continues (octet : UInt8) : Prop := 0x80 ≤ octet.toNat ∧ octet.toNat ≤ 0xBF

/-- The code point that continuations add up to. -/
def accumulate (bits : Nat) (tail : Bytes) : Nat :=
  tail.foldl (fun bits octet => bits * 64 + octet.toNat % 64) bits

theorem toNat_ofNat_of_valid {v : Nat} (h : v.isValidChar) : (Char.ofNat v).val.toNat = v := by
  rw [Char.ofNat, dif_pos h]
  rfl

theorem ofNat_eq (octet : UInt8) {n : Nat} (h : n = octet.toNat) : UInt8.ofNat n = octet := by
  rw [h, UInt8.ofNat_toNat]

theorem utf8EncodeChar_of_whole {c : Char} (opens : opening octet = .whole c) :
    String.utf8EncodeChar c = [octet] := by
  unfold opening at opens
  simp only at opens
  repeat' split at opens
  all_goals simp only [Opening.whole.injEq, reduceCtorEq] at opens
  subst opens
  have hvalue := toNat_ofNat_of_valid (v := octet.toNat) (.inl (by omega))
  simp only [String.utf8EncodeChar, hvalue]
  rw [if_pos (by omega), ofNat_eq octet rfl]

theorem utf8EncodeChar_two {lead : UInt8} (hlead : 0xC2 ≤ lead.toNat ∧ lead.toNat < 0xE0)
    (hsecond : Continues second) :
    String.utf8EncodeChar (Char.ofNat ((lead.toNat - 0xC0) * 64 + second.toNat % 64)) =
      [lead, second] := by
  obtain ⟨hlow, hhigh⟩ := hsecond
  have hvalue := toNat_ofNat_of_valid
    (v := (lead.toNat - 0xC0) * 64 + second.toNat % 64) (.inl (by omega))
  generalize hv : (lead.toNat - 0xC0) * 64 + second.toNat % 64 = v at *
  simp only [String.utf8EncodeChar, hvalue]
  rw [if_neg (by omega), if_pos (by omega), ofNat_eq lead (by omega),
    ofNat_eq second (by omega)]

theorem utf8EncodeChar_three {lead third : UInt8}
    (hlead : 0xE0 ≤ lead.toNat ∧ lead.toNat < 0xF0) (hsecond : Continues second)
    (hthird : Continues third) (hleast : lead.toNat = 0xE0 → 0xA0 ≤ second.toNat)
    (hscalar : lead.toNat = 0xED → second.toNat ≤ 0x9F) :
    String.utf8EncodeChar (Char.ofNat
      (((lead.toNat - 0xE0) * 64 + second.toNat % 64) * 64 + third.toNat % 64)) =
      [lead, second, third] := by
  obtain ⟨hlow, hhigh⟩ := hsecond
  obtain ⟨hlow', hhigh'⟩ := hthird
  have hvalue := toNat_ofNat_of_valid
    (v := ((lead.toNat - 0xE0) * 64 + second.toNat % 64) * 64 + third.toNat % 64)
    (show _ < 0xD800 ∨ 0xDFFF < _ ∧ _ < 0x110000 by omega)
  generalize hv : ((lead.toNat - 0xE0) * 64 + second.toNat % 64) * 64 + third.toNat % 64 = v at *
  simp only [String.utf8EncodeChar, hvalue]
  rw [if_neg (by omega), if_neg (by omega), if_pos (by omega), ofNat_eq lead (by omega),
    ofNat_eq second (by omega), ofNat_eq third (by omega)]

theorem utf8EncodeChar_four {lead third fourth : UInt8}
    (hlead : 0xF0 ≤ lead.toNat ∧ lead.toNat ≤ 0xF4) (hsecond : Continues second)
    (hthird : Continues third) (hfourth : Continues fourth)
    (hleast : lead.toNat = 0xF0 → 0x90 ≤ second.toNat)
    (hmost : lead.toNat = 0xF4 → second.toNat ≤ 0x8F) :
    String.utf8EncodeChar (Char.ofNat
      ((((lead.toNat - 0xF0) * 64 + second.toNat % 64) * 64 + third.toNat % 64) * 64 +
        fourth.toNat % 64)) =
      [lead, second, third, fourth] := by
  obtain ⟨hlow, hhigh⟩ := hsecond
  obtain ⟨hlow', hhigh'⟩ := hthird
  obtain ⟨hlow'', hhigh''⟩ := hfourth
  have hvalue := toNat_ofNat_of_valid
    (v := (((lead.toNat - 0xF0) * 64 + second.toNat % 64) * 64 + third.toNat % 64) * 64 +
      fourth.toNat % 64)
    (.inr ⟨by omega, by omega⟩)
  generalize hv : (((lead.toNat - 0xF0) * 64 + second.toNat % 64) * 64 + third.toNat % 64) * 64 +
    fourth.toNat % 64 = v at *
  simp only [String.utf8EncodeChar, hvalue]
  rw [if_neg (by omega), if_neg (by omega), if_neg (by omega),
    ofNat_eq lead (by omega), ofNat_eq second (by omega),
    ofNat_eq third (by omega), ofNat_eq fourth (by omega)]

/-- What a first octet opens, by the number of octets that follow the second one. -/
theorem opening_inv (h : opening octet = .owed owed) :
    0x80 ≤ owed.low ∧ owed.high ≤ 0xBF ∧
      ((owed.more = 0 ∧ (0xC2 ≤ octet.toNat ∧ octet.toNat < 0xE0) ∧
          owed.bits = octet.toNat - 0xC0) ∨
        (owed.more = 1 ∧ (0xE0 ≤ octet.toNat ∧ octet.toNat < 0xF0) ∧
          owed.bits = octet.toNat - 0xE0 ∧ (octet.toNat = 0xE0 → 0xA0 ≤ owed.low) ∧
          (octet.toNat = 0xED → owed.high ≤ 0x9F)) ∨
        (owed.more = 2 ∧ (0xF0 ≤ octet.toNat ∧ octet.toNat ≤ 0xF4) ∧
          owed.bits = octet.toNat - 0xF0 ∧ (octet.toNat = 0xF0 → 0x90 ≤ owed.low) ∧
          (octet.toNat = 0xF4 → owed.high ≤ 0x8F))) := by
  unfold opening at h
  simp only at h
  repeat' split at h
  all_goals simp only [Opening.owed.injEq, reduceCtorEq] at h
  all_goals subst h
  all_goals dsimp only
  all_goals omega

/-- What an octet opens, and octets in their ranges complete, are the octets of a character. -/
theorem utf8EncodeChar_of_opening (opens : opening octet = .owed owed)
    (low : owed.low ≤ second.toNat) (high : second.toNat ≤ owed.high)
    (length : tail.length = owed.more) (continues : ∀ octet ∈ tail, Continues octet) :
    String.utf8EncodeChar
      (Char.ofNat (accumulate (owed.bits * 64 + second.toNat % 64) tail)) =
      octet :: second :: tail := by
  obtain ⟨hlow, hhigh, hcases⟩ := opening_inv opens
  have hsecond : Continues second := ⟨by omega, by omega⟩
  rcases hcases with ⟨hmore, hlead, hbits⟩ | ⟨hmore, hlead, hbits, hleast, hscalar⟩ |
    ⟨hmore, hlead, hbits, hleast, hmost⟩
  · obtain rfl := List.length_eq_zero_iff.mp (length.trans hmore)
    rw [hbits]
    exact utf8EncodeChar_two hlead hsecond
  · obtain ⟨third, rfl⟩ := List.length_eq_one_iff.mp (length.trans hmore)
    rw [hbits]
    exact utf8EncodeChar_three hlead hsecond (continues third (by simp))
      (fun h => (hleast h).trans low) (fun h => high.trans (hscalar h))
  · obtain ⟨third, fourth, rfl⟩ := List.length_eq_two.mp (length.trans hmore)
    rw [hbits]
    exact utf8EncodeChar_four hlead hsecond (continues third (by simp))
      (continues fourth (by simp)) (fun h => (hleast h).trans low) (fun h => high.trans (hmost h))

/-! ## What comes first -/

theorem decodeFrom_of_outside (h : ¬(owed.low ≤ octet.toNat ∧ octet.toNat ≤ owed.high)) :
    decodeFrom (some owed) (octet :: bytes) = none :: decodeFrom none (octet :: bytes) := by
  rw [decodeFrom, step, if_neg h, decodeFrom]
  rfl

/-- What comes first once a character is unfinished: a mark, or the character that octets in their
ranges complete. -/
theorem decodeFrom_owed (h : decodeFrom (some owed) bytes = entry :: rest) :
    ∃ front back, bytes = front ++ back ∧ decodeFrom none back = rest ∧
      ∀ c, entry = some c → ∃ second tail, front = second :: tail ∧
        owed.low ≤ second.toNat ∧ second.toNat ≤ owed.high ∧ tail.length = owed.more ∧
        (∀ octet ∈ tail, Continues octet) ∧
        c = Char.ofNat (accumulate (owed.bits * 64 + second.toNat % 64) tail) := by
  induction bytes generalizing owed with
  | nil =>
    obtain ⟨rfl, rfl⟩ : none = entry ∧ [] = rest := by simpa [decodeFrom, finish] using h
    exact ⟨[], [], rfl, rfl, by simp⟩
  | cons octet bytes ih =>
    by_cases hrange : owed.low ≤ octet.toNat ∧ octet.toNat ≤ owed.high
    · obtain ⟨bits, more, low, high⟩ := owed
      rw [decodeFrom, step, if_pos hrange] at h
      cases more with
      | zero =>
        obtain ⟨rfl, rfl⟩ := List.cons.inj h
        refine ⟨[octet], bytes, rfl, rfl, fun c hc => ⟨octet, [], rfl, hrange.1, hrange.2, rfl, ?_⟩⟩
        exact ⟨by simp, (Option.some.inj hc).symm⟩
      | succ more =>
        obtain ⟨front, back, rfl, hback, hentry⟩ := ih h
        refine ⟨octet :: front, back, rfl, hback, fun c hc => ?_⟩
        obtain ⟨second, tail, rfl, hlow, hhigh, hlength, htail, rfl⟩ := hentry c hc
        exact ⟨octet, second :: tail, rfl, hrange.1, hrange.2, by simpa using hlength,
          List.forall_mem_cons.mpr ⟨⟨hlow, hhigh⟩, htail⟩, rfl⟩
    · rw [decodeFrom_of_outside hrange] at h
      obtain ⟨rfl, rfl⟩ := List.cons.inj h
      exact ⟨[], octet :: bytes, rfl, rfl, by simp⟩

/-- A character comes first off its octets only, and what is behind is read as if it stood alone. -/
theorem decodeFrom_cons (h : decodeFrom none bytes = entry :: rest) :
    ∃ front back, bytes = front ++ back ∧ front ≠ [] ∧ decodeFrom none back = rest ∧
      ∀ c, entry = some c → front = String.utf8EncodeChar c := by
  cases bytes with
  | nil => simp [decodeFrom, finish] at h
  | cons octet bytes =>
    cases hopening : opening octet with
    | whole c =>
      rw [decodeFrom, step, start, hopening] at h
      obtain ⟨rfl, rfl⟩ := List.cons.inj h
      refine ⟨[octet], bytes, rfl, by simp, rfl, ?_⟩
      rintro c' ⟨⟩
      exact (utf8EncodeChar_of_whole hopening).symm
    | illFormed =>
      rw [decodeFrom, step, start, hopening] at h
      obtain ⟨rfl, rfl⟩ := List.cons.inj h
      exact ⟨[octet], bytes, rfl, by simp, rfl, by simp⟩
    | owed owed =>
      rw [decodeFrom_opening hopening] at h
      obtain ⟨front, back, rfl, hback, hentry⟩ := decodeFrom_owed h
      refine ⟨octet :: front, back, rfl, by simp, hback, fun c hc => ?_⟩
      obtain ⟨second, tail, rfl, hlow, hhigh, hlength, htail, rfl⟩ := hentry c hc
      exact (utf8EncodeChar_of_opening hopening hlow hhigh hlength htail).symm

theorem decodeFrom_some_ne_nil (owed : Owed) (bytes : Bytes) : decodeFrom (some owed) bytes ≠ [] := by
  induction bytes generalizing owed with
  | nil => simp [decodeFrom, finish]
  | cons octet bytes ih =>
    by_cases hrange : owed.low ≤ octet.toNat ∧ octet.toNat ≤ owed.high
    · obtain ⟨bits, more, low, high⟩ := owed
      rw [decodeFrom, step, if_pos hrange]
      cases more with
      | zero => simp
      | succ more => exact ih _
    · simp [decodeFrom_of_outside hrange]

theorem eq_nil_of_decodeFrom_eq_nil (h : decodeFrom none bytes = []) : bytes = [] := by
  cases bytes with
  | nil => rfl
  | cons octet bytes =>
    cases hopening : opening octet with
    | whole c => simp [decodeFrom, step, start, hopening] at h
    | illFormed => simp [decodeFrom, step, start, hopening] at h
    | owed owed =>
      rw [decodeFrom_opening hopening] at h
      exact absurd h (decodeFrom_some_ne_nil owed bytes)

theorem eq_some_of_getD {c : Char} (h : entry.getD '\uFFFD' = c) (hc : c ≠ '\uFFFD') :
    entry = some c := by
  cases entry with
  | none => exact absurd h.symm hc
  | some first => exact congrArg some h

theorem prefix_of_lossyChars_eq_cons {c : Char} {cs : List Char} (h : lossyChars bytes = c :: cs)
    (hc : c ≠ '\uFFFD') : String.utf8EncodeChar c <+: bytes := by
  obtain ⟨entry, rest, hmarked, hentry, -⟩ := List.map_eq_cons_iff.mp h
  obtain ⟨front, back, rfl, -, -, hfront⟩ := decodeFrom_cons hmarked
  rw [hfront c (eq_some_of_getD hentry hc)]
  exact List.prefix_append _ _

/-- Every character is read off its octets, if it is not what is shown for a mark. -/
theorem infix_of_mem_lossyChars {c : Char} (h : c ∈ lossyChars bytes) (hc : c ≠ '\uFFFD') :
    String.utf8EncodeChar c <:+: bytes := by
  obtain ⟨entry, hmem, hentry⟩ := List.mem_map.mp h
  rw [eq_some_of_getD hentry hc] at hmem
  clear h hentry
  generalize hmarked : decodeFrom none bytes = marked at hmem
  induction marked generalizing bytes with
  | nil => simp at hmem
  | cons first marked ih =>
    obtain ⟨front, back, rfl, -, hback, hfront⟩ := decodeFrom_cons hmarked
    rcases List.mem_cons.mp hmem with hfirst | hmem
    · rw [hfront c hfirst.symm]
      exact (List.prefix_append _ _).isInfix
    · exact (ih hback hmem).trans (List.suffix_append _ _).isInfix

/-! ## Well-formed octets -/

theorem eq_encodeChars_of_decodeFrom {cs : List Char} (h : decodeFrom none bytes = cs.map some) :
    bytes = encodeChars cs := by
  induction cs generalizing bytes with
  | nil => exact eq_nil_of_decodeFrom_eq_nil h
  | cons c cs ih =>
    obtain ⟨front, back, rfl, -, hback, hentry⟩ := decodeFrom_cons h
    rw [hentry c rfl, ih hback]
    rfl

theorem mapM_id_eq_some_iff {marked : Marked} {cs : List Char} :
    marked.mapM id = some cs ↔ marked = cs.map some := by
  induction marked generalizing cs with
  | nil => cases cs <;> simp
  | cons entry marked ih =>
    cases entry with
    | none => cases cs <;> simp
    | some c =>
      cases cs with
      | nil => cases h : marked.mapM id <;> simp [h]
      | cons d cs =>
        rw [List.mapM_cons, List.map_cons, List.cons.injEq, Option.some.injEq, ← ih]
        cases marked.mapM id <;> simp [eq_comm]

/-- The octets of a text, and no others, are read as that text. -/
theorem decode?_eq_some_iff {text : String} : decode? bytes = some text ↔ bytes = encode text := by
  refine ⟨fun h => ?_, fun h => h ▸ decode?_encode text⟩
  obtain ⟨cs, hcs, rfl⟩ := Option.map_eq_some_iff.mp h
  rw [encode, String.toList_ofList]
  exact eq_encodeChars_of_decodeFrom (mapM_id_eq_some_iff.mp hcs)

/-- What is well formed is read the same whether or not that is required. -/
theorem lossyChars_of_decode? {text : String} (h : decode? bytes = some text) :
    lossyChars bytes = text.toList := by
  rw [decode?_eq_some_iff.mp h, encode, lossyChars_encodeChars]

/-! ## Lines -/

theorem lossyChars_append_newline (front back : Bytes) :
    lossyChars (front ++ 0x0A :: back) = lossyChars front ++ '\n' :: lossyChars back := by
  simp [lossyChars, decodeFrom_append_newline]

/-- A newline is read off a line feed only. -/
theorem mem_of_newline_mem_lossyChars (h : '\n' ∈ lossyChars bytes) : 0x0A ∈ bytes := by
  have hencoded : String.utf8EncodeChar '\n' = [0x0A] := by decide
  exact (infix_of_mem_lossyChars h (by decide)).subset (by simp [hencoded])

/-- Octets are read line by line. -/
theorem splitOn_lossyChars (bytes : Bytes) :
    (lossyChars bytes).splitOn '\n' = (bytes.splitOn 0x0A).map lossyChars := by
  by_cases h : 0x0A ∈ bytes
  · obtain ⟨front, back, rfl, hfront⟩ := List.eq_append_cons_of_mem h
    have hnewline : '\n' ∉ lossyChars front := fun h => hfront (mem_of_newline_mem_lossyChars h)
    rw [lossyChars_append_newline, List.splitOn_append_cons_self, List.splitOn_append_cons_self,
      splitOn_lossyChars back, List.splitOn_eq_singleton hnewline,
      List.splitOn_eq_singleton hfront, List.map_append, List.map_singleton]
  · have hnewline : '\n' ∉ lossyChars bytes := fun h' => h (mem_of_newline_mem_lossyChars h')
    rw [List.splitOn_eq_singleton hnewline, List.splitOn_eq_singleton h, List.map_singleton]
termination_by bytes.length
decreasing_by
  rw [‹bytes = front ++ 0x0A :: back›, List.length_append, List.length_cons]
  omega

end ScriptBuild.Text.Utf8
