import Mathlib
import ScriptBuild.Script.ClassName

/-!
# Counters spelled in letters

Spelling keeps the last digits of a number, so two numbers have the same letters exactly if they are
whole cycles apart, and within the first cycle numbers are in the order of their letters. Names that
a counter gives one after the other repeat when it has gone through a cycle, and not before.

The letters are looked at from the last one on, as a list that is backwards, because that is how
digits are split off a number; a cycle is a power of 52. The order of names is that of their letters
compared from the front, with upper case before lower case. It is the order of the numbers only
where none has lost its leading digits, and a counter of 64 bits stays far below the first cycle of
ten letters, so there the restriction says nothing.

**Results.**
* `Text.Letters.backwards_eq_iff`: which numbers have the same letters.
* `Text.Letters.map_position_lt`: numbers that are not cut off are in the order of their letters.
* `take_counting`: the names that a counter gives, and where it stands after them.
* `names_cycle`: when two names are the same, and how they are ordered.
-/
namespace ScriptBuild

/-! ## Letters as digits -/

namespace Text.Letters

/-- The letters, in the order of the digits they stand for. -/
def alphabet : List Char := "ABCDEFGHIJKLMNOPQRSTUVWXYZabcdefghijklmnopqrstuvwxyz".toList

def position (c : Char) : Nat := alphabet.idxOf c

variable {count a b : Nat}

theorem position_letter {digit : Nat} (h : digit < 52) : position (letter digit) = digit := by
  have hall : ∀ digit : Fin 52, position (letter digit.val) = digit.val := by decide
  exact hall ⟨digit, h⟩

theorem isAlpha_letter {digit : Nat} (h : digit < 52) : (letter digit).isAlpha = true := by
  have hall : ∀ digit : Fin 52, (letter digit.val).isAlpha = true := by decide
  exact hall ⟨digit, h⟩

theorem position_letter_mod (value : Nat) : position (letter (value % 52)) = value % 52 :=
  position_letter (Nat.mod_lt value (by decide))

theorem letter_mod_inj : letter (a % 52) = letter (b % 52) ↔ a % 52 = b % 52 := by
  refine ⟨fun h => ?_, fun h => h ▸ rfl⟩
  rw [← position_letter_mod a, h, position_letter_mod]

theorem isAlpha_of_mem_backwards {c : Char} {value : Nat} (h : c ∈ backwards count value) :
    c.isAlpha = true := by
  induction count generalizing value with
  | zero => simp [backwards] at h
  | succ count ih =>
    rcases List.mem_cons.mp h with rfl | h
    · exact isAlpha_letter (Nat.mod_lt value (by decide))
    · exact ih h

/-- Two numbers have the same letters if they differ by a multiple of what the letters count to. -/
theorem backwards_eq_iff : backwards count a = backwards count b ↔ a ≡ b [MOD 52 ^ count] := by
  induction count generalizing a b with
  | zero => simp [backwards, Nat.modEq_one]
  | succ count ih =>
    have hlast : a % 52 < 52 ∧ b % 52 < 52 := ⟨Nat.mod_lt _ (by decide), Nat.mod_lt _ (by decide)⟩
    rw [backwards, backwards, List.cons.injEq, letter_mod_inj, ih, Nat.ModEq, Nat.ModEq,
      Nat.pow_succ', Nat.mod_mul, Nat.mod_mul]
    omega

theorem spell_eq_iff : spell count a = spell count b ↔ a ≡ b [MOD 52 ^ count] := by
  rw [spell, spell, String.ofList_inj, List.reverse_inj, backwards_eq_iff]

/-- Where as many letters stand in front, a smaller one decides whatever comes behind. -/
theorem lex_append {s t : List Nat} (length : s.length = t.length) (h : s < t)
    (later later' : List Nat) : s ++ later < t ++ later' := by
  induction h with
  | nil => simp at length
  | rel h => exact .rel h
  | cons _ ih => exact .cons (ih (by simpa using length))

/-- The digits of a number that is not cut off are in the order of the number. -/
theorem map_position_lt (hab : a < b) (hb : b < 52 ^ count) :
    (backwards count a).reverse.map position < (backwards count b).reverse.map position := by
  induction count generalizing a b with
  | zero => simp at hb; omega
  | succ count ih =>
    have hsplit : ∀ value, (backwards (count + 1) value).reverse.map position =
        (backwards count (value / 52)).reverse.map position ++ [value % 52] := fun value => by
      simp [backwards, position_letter_mod]
    have hhigh : b / 52 < 52 ^ count := Nat.div_lt_of_lt_mul (by rwa [Nat.pow_succ'] at hb)
    rw [hsplit, hsplit]
    -- Either the digits in front decide, or they are the same and the last one does.
    rcases Nat.lt_or_eq_of_le (Nat.div_le_div_right (c := 52) hab.le) with hfront | hfront
    · exact lex_append (by simp [length_backwards]) (ih hfront hhigh) _ _
    · rw [hfront]
      exact List.Lex.append_left _ (.rel (by omega)) _

end Text.Letters

/-! ## Names from a counter -/

namespace ClassName

open Text.Letters (position)

theorem take_counting (start : UInt64) (count : Nat) :
    (Supply.counting start).take count =
      ((List.range count).map fun index => spell (start + UInt64.ofNat index),
        .counting (start + UInt64.ofNat count)) := by
  induction count generalizing start with
  | zero => simp [Supply.take]
  | succ count ih =>
    have hnext : ∀ index, start + 1 + UInt64.ofNat index = start + UInt64.ofNat (index + 1) :=
      fun index => by rw [UInt64.ofNat_add, UInt64.add_assoc, UInt64.add_comm 1]; rfl
    simp [Supply.take, Supply.fresh, ih, hnext, List.range_succ_eq_map]

theorem toNat_add_ofNat {start : UInt64} {count : Nat} (few : start.toNat + count < 2 ^ 64) :
    (start + UInt64.ofNat count).toNat = start.toNat + count := by
  rw [UInt64.toNat_add, UInt64.toNat_ofNat']
  omega

theorem isAlpha_of_mem_spell {value : UInt64} {c : Char} (h : c ∈ (spell value).toList) :
    c.isAlpha = true := by
  rw [spell, Text.Letters.spell, String.toList_ofList, List.mem_reverse] at h
  exact Text.Letters.isAlpha_of_mem_backwards h

theorem nodup_take_counting {start : UInt64} {count : Nat} (cycle : count ≤ 52 ^ 10)
    (few : start.toNat + count < 2 ^ 64) : ((Supply.counting start).take count).1.Nodup := by
  rw [take_counting]
  refine List.Nodup.map_on (fun i hi j hj hsame => ?_) List.nodup_range
  have hindex : i < count ∧ j < count := ⟨List.mem_range.mp hi, List.mem_range.mp hj⟩
  have hmod : start.toNat + i ≡ start.toNat + j [MOD 52 ^ 10] := by
    rw [← toNat_add_ofNat (by omega), ← toNat_add_ofNat (by omega)]
    exact Text.Letters.spell_eq_iff.mp hsame
  exact (Nat.ModEq.add_left_cancel' _ hmod).eq_of_lt_of_lt (by omega) (by omega)

/-- A name has ten letters, and two counters have the same one exactly if they are whole cycles
apart. So the names from a counter are all different for a cycle, while it counts on without
running over, and in the first cycle names are ordered as their counters are. -/
theorem names_cycle :
    (∀ value, (spell value).length = 10 ∧ ∀ c ∈ (spell value).toList, c.isAlpha = true) ∧
    (∀ a b : UInt64, spell a = spell b ↔ a.toNat ≡ b.toNat [MOD 52 ^ 10]) ∧
    (∀ (start : UInt64) (count : Nat), count ≤ 52 ^ 10 → start.toNat + count < 2 ^ 64 →
      ((Supply.counting start).take count).1.length = count ∧
      ((Supply.counting start).take count).1.Nodup ∧
      ∀ drawn ≤ count, ∃ next : UInt64, ((Supply.counting start).take drawn).2 = .counting next ∧
        next.toNat = start.toNat + drawn) ∧
    ∀ a b : UInt64, a < b → b.toNat < 52 ^ 10 →
      (spell a).toList.map position < (spell b).toList.map position := by
  refine ⟨fun value => ⟨length_spell value, fun c => isAlpha_of_mem_spell⟩,
    fun a b => Text.Letters.spell_eq_iff, fun start count cycle few => ⟨?_, ?_, ?_⟩,
    fun a b hab hb => ?_⟩
  · simp [take_counting]
  · exact nodup_take_counting cycle few
  · intro drawn hdrawn
    rw [take_counting]
    exact ⟨_, rfl, toNat_add_ofNat (by omega)⟩
  · rw [spell, spell, Text.Letters.spell, Text.Letters.spell, String.toList_ofList,
      String.toList_ofList]
    exact Text.Letters.map_position_lt (UInt64.lt_iff_toNat_lt.mp hab) hb

/-- The last name of the first cycle and the first one of the next are different, though the latter
is the first of all names. -/
theorem names_cycle_turning :
    spell 144555105949057023 = "zzzzzzzzzz" ∧ 2 ≤ 52 ^ 10 ∧
    (144555105949057023 : UInt64).toNat + 2 < 2 ^ 64 ∧
    ((Supply.counting 144555105949057023).take 2).1.Nodup ∧
    spell 144555105949057024 = spell 0 ∧
    (51 : UInt64) < 52 ∧ (52 : UInt64).toNat < 52 ^ 10 ∧
    (spell 51).toList.map position < (spell 52).toList.map position := by
  obtain ⟨-, hsame, htaken, hordered⟩ := names_cycle
  have hlast : spell 144555105949057023 = "zzzzzzzzzz" := by decide
  have hcycle : 2 ≤ 52 ^ 10 := by decide
  have hfew : (144555105949057023 : UInt64).toNat + 2 < 2 ^ 64 := by decide
  have hlt : (51 : UInt64) < 52 := by decide
  have hfirst : (52 : UInt64).toNat < 52 ^ 10 := by decide
  exact ⟨hlast, hcycle, hfew, (htaken _ 2 hcycle hfew).2.1, (hsame _ _).mpr (by decide), hlt,
    hfirst, hordered 51 52 hlt hfirst⟩

end ClassName

end ScriptBuild
