/-!
# Sets of characters as code point ranges

A property of characters is stored as the closed ranges of code points that have it, in ascending
order. `Ranges.covers` is membership.

A table is trusted to be what its name says, and its order and the absence of overlaps are not used
by `covers`, which looks at the ranges one after the other. That two tables have no character in
common is a comparison of ranges (`Ranges.apart`), and so decidable for tables as they stand.

**Results.**
* `Ranges.not_covers_of_apart`: no character lies in two sets whose ranges are apart.
-/
namespace ScriptBuild.Text

/-- Closed ranges of code points. -/
abbrev Ranges := List (Nat × Nat)

def Ranges.covers (ranges : Ranges) (c : Char) : Bool :=
  ranges.any fun range => range.1 ≤ c.toNat && c.toNat ≤ range.2

theorem Ranges.covers_iff {ranges : Ranges} {c : Char} :
    ranges.covers c = true ↔ ∃ range ∈ ranges, range.1 ≤ c.toNat ∧ c.toNat ≤ range.2 := by
  simp [Ranges.covers]

/-- Whether no range of one set meets a range of the other. -/
def Ranges.apart (left right : Ranges) : Bool :=
  left.all fun l => right.all fun r => l.2 < r.1 || r.2 < l.1

theorem Ranges.not_covers_of_apart {left right : Ranges} (h : left.apart right = true) {c : Char}
    (hl : left.covers c = true) : right.covers c = false := by
  rw [Bool.eq_false_iff]
  intro hr
  obtain ⟨l, hlm, hl1, hl2⟩ := covers_iff.mp hl
  obtain ⟨r, hrm, hr1, hr2⟩ := covers_iff.mp hr
  have := List.all_eq_true.mp (List.all_eq_true.mp h l hlm) r hrm
  simp only [Bool.or_eq_true, decide_eq_true_eq] at this
  omega

end ScriptBuild.Text
