/-!
# Finitely many short texts

Texts below a given length are finitely many. What matters is that a list without repetitions
cannot hold more of them than `shortCount` says, which bounds every search that never meets the same
short text twice. A text is counted by a number that stands for it, its characters being digits of a
positional notation.

**Results.**
* `length_le_of_nodup_lt`: a list of distinct numbers below `n` has at most `n` of them.
* `length_le_shortCount`: a list of distinct texts of fewer than `size` characters has at most
  `shortCount size` of them.
-/
namespace ScriptBuild.Text

/-- One more than the number of characters. -/
def charBase : Nat := 0x110001

/-- A number that stands for a list of characters. -/
def code : List Char → Nat
  | [] => 0
  | c :: cs => (c.toNat + 1) + charBase * code cs

/-- A bound on the number of texts of fewer than `size` characters. -/
def shortCount : Nat → Nat
  | 0 => 1
  | size + 1 => shortCount size * charBase

theorem shortCount_le_of_le {m n : Nat} (h : m ≤ n) : shortCount m ≤ shortCount n := by
  induction h with
  | refl => exact Nat.le_refl _
  | step _ ih => exact Nat.le_trans ih (Nat.le_mul_of_pos_right _ (by decide))

theorem toNat_succ_lt (c : Char) : c.toNat + 1 < charBase := by
  have h : c.toNat < 0x110000 := by
    rcases c.valid with h | h
    · exact Nat.lt_trans h (by decide)
    · exact h.2
  unfold charBase
  omega

theorem code_lt (cs : List Char) : code cs < shortCount cs.length := by
  induction cs with
  | nil => decide
  | cons c cs ih =>
    have hc := toNat_succ_lt c
    simp only [code, List.length_cons, shortCount]
    have hmul : charBase * code cs + charBase ≤ shortCount cs.length * charBase := by
      have := Nat.mul_le_mul_left charBase (Nat.succ_le_of_lt ih)
      rw [Nat.mul_succ, Nat.mul_comm charBase (shortCount _)] at this
      exact this
    omega

theorem code_injective {a b : List Char} (h : code a = code b) : a = b := by
  induction a generalizing b with
  | nil =>
    cases b with
    | nil => rfl
    | cons d b => simp only [code] at h; omega
  | cons c a ih =>
    cases b with
    | nil => simp only [code] at h; omega
    | cons d b =>
      simp only [code] at h
      have hc := toNat_succ_lt c
      have hd := toNat_succ_lt d
      have hmod := congrArg (· % charBase) h
      simp only [Nat.add_mul_mod_self_left, Nat.mod_eq_of_lt hc, Nat.mod_eq_of_lt hd] at hmod
      have hcd : c = d := Char.toNat_inj.mp (by omega)
      subst hcd
      have hmul : charBase * code a = charBase * code b := by omega
      rw [ih (Nat.eq_of_mul_eq_mul_left (by decide) hmul)]

theorem length_le_of_nodup_lt {n : Nat} {l : List Nat} (distinct : l.Nodup)
    (small : ∀ x ∈ l, x < n) : l.length ≤ n := by
  induction n generalizing l with
  | zero =>
    cases l with
    | nil => simp
    | cons x l => exact absurd (small x (by simp)) (by omega)
  | succ n ih =>
    have hrest := ih (l := l.erase n) (distinct.erase n) fun x hx => by
      have hx' := (List.Nodup.mem_erase_iff distinct).mp hx
      have := small x hx'.2
      have := hx'.1
      omega
    rw [List.length_erase] at hrest
    split at hrest <;> omega

theorem length_le_shortCount {size : Nat} {l : List String} (distinct : l.Nodup)
    (short : ∀ text ∈ l, text.length < size) : l.length ≤ shortCount size := by
  have hcodes : (l.map fun text => code text.toList).Nodup := by
    refine List.Pairwise.map _ (fun a b hab h => hab ?_) distinct
    exact String.toList_inj.mp (code_injective h)
  have hbound := length_le_of_nodup_lt hcodes (n := shortCount size) fun x hx => by
    obtain ⟨text, htext, rfl⟩ := List.mem_map.mp hx
    have hlength : text.toList.length < size := String.length_toList.symm ▸ short text htext
    exact Nat.lt_of_lt_of_le (code_lt _) (shortCount_le_of_le (Nat.le_of_lt hlength))
  rw [List.length_map] at hbound
  exact hbound

end ScriptBuild.Text
