import Mathlib
import ScriptBuild.Proofs.Text.Cutting

/-!
# Trimming and cutting what is put together

Where a text is put together from parts, trimming takes the blanks at its two ends, and a cut is
made at the first separator.

Blanks are those of `Text.isBlank`. A newline is one of them, so trimming a line with or without its
ending comes to the same. For the two ends there are two inductions, one from the front and one from
the back, and the lemmas on what is put together spare later proofs both: they say which part the
end of a text lies in.

A cut at the first separator is described by an equivalence, in front of which there is no
separator. The first word ends at the first blank and is empty for a text of blanks.

**Results.**
* `trimChars_append_blank`, `trimChars_blank_append`: blanks at the ends are nothing to what is
  trimmed.
* `trimChars_append`, `trimEnd_append`: a character that is no blank stays, and so does everything
  between two of them.
* `firstWord_trimChars`: the first word of a text is that of its trimmed form.
* `cutOnce_append`, `cutOnce_eq_some_iff`: a text is cut at its first separator.
* `pieces_append_line`: a line is a piece of its own.
-/
namespace ScriptBuild.Text

variable {c sep : Char} {cs front back : List Char}

/-! ## Blanks at the ends -/

theorem trimChars_append_blank {tail : List Char} (cs : List Char)
    (blank : ∀ c ∈ tail, isBlank c = true) : trimChars (cs ++ tail) = trimChars cs := by
  have hend : ∀ text, trimEnd (text ++ tail) = trimEnd text := by
    intro text
    have hreverse : ∀ c ∈ tail.reverse, isBlank c = true := by simpa using blank
    rw [trimEnd, trimEnd, List.reverse_append, List.dropWhile_append_of_pos hreverse]
  have htail : tail.dropWhile isBlank = [] := List.dropWhile_eq_nil_iff.mpr blank
  unfold trimChars
  rw [List.dropWhile_append]
  split
  · rename_i hempty
    rw [List.isEmpty_iff.mp hempty, htail]
  · exact hend _

theorem trimChars_blank_append {front : List Char} (cs : List Char)
    (blank : ∀ c ∈ front, isBlank c = true) : trimChars (front ++ cs) = trimChars cs := by
  rw [trimChars, trimChars, List.dropWhile_append_of_pos blank]

theorem trimChars_sublist (cs : List Char) : (trimChars cs).Sublist cs := by
  have hend : ∀ text, (trimEnd text).Sublist text := fun text => by
    have := (List.dropWhile_sublist isBlank (l := text.reverse)).reverse
    rwa [List.reverse_reverse] at this
  exact (hend _).trans (List.dropWhile_sublist _)

theorem countP_trimChars (cs : List Char) :
    (trimChars cs).countP (!isBlank ·) = cs.countP (!isBlank ·) := by
  have hstart : ∀ text : List Char,
      (text.dropWhile isBlank).countP (!isBlank ·) = text.countP (!isBlank ·) := by
    intro text
    induction text with
    | nil => rfl
    | cons c text ih =>
      cases hc : isBlank c with
      | true => simp [hc, ih]
      | false => simp [hc]
  rw [trimChars, trimEnd, List.countP_reverse, hstart, List.countP_reverse, hstart]

theorem dropTerminator_of_newline_notMem (h : '\n' ∉ cs) :
    dropTerminator cs = cs := by
  have hreverse : '\n' ∉ cs.reverse := by simpa using h
  unfold dropTerminator
  split
  · simp_all
  · simp_all
  · rfl

theorem trimChars_dropTerminator (piece : List Char) :
    trimChars (dropTerminator piece) = trimChars piece := by
  have hback : ∀ back : List Char, piece.reverse = back → piece = back.reverse := by
    intro back h
    rw [← h, List.reverse_reverse]
  unfold dropTerminator
  split
  · rename_i rest h
    rw [hback _ h, List.reverse_cons, List.reverse_cons, List.append_assoc]
    exact (trimChars_append_blank _ (by simp [isBlank_newline, isBlank_return])).symm
  · rename_i rest h
    rw [hback _ h, List.reverse_cons]
    exact (trimChars_append_blank _ (by simp [isBlank_newline])).symm
  · rfl

/-! ## What stays -/

theorem trimEnd_cons (h : isBlank c = false) (cs : List Char) :
    trimEnd (c :: cs) = c :: trimEnd cs := by
  rw [trimEnd, trimEnd, List.reverse_cons, List.dropWhile_append]
  split
  · rename_i hempty
    simp [h, List.isEmpty_iff.mp hempty]
  · simp

theorem trimChars_cons (h : isBlank c = false) (cs : List Char) :
    trimChars (c :: cs) = c :: trimEnd cs := by
  rw [trimChars, List.dropWhile_cons_of_neg (by simp [h]), trimEnd_cons h]

theorem exists_trimEnd_append (cs : List Char) :
    ∃ tail, cs = trimEnd cs ++ tail ∧ ∀ c ∈ tail, isBlank c = true := by
  refine ⟨(cs.reverse.takeWhile isBlank).reverse, ?_, fun c hc => ?_⟩
  · rw [trimEnd, ← List.reverse_append, List.takeWhile_append_dropWhile, List.reverse_reverse]
  · exact List.mem_takeWhile_imp (List.mem_reverse.mp hc)

theorem trimChars_trimEnd (cs : List Char) : trimChars (trimEnd cs) = trimChars cs := by
  obtain ⟨tail, hcs, htail⟩ := exists_trimEnd_append cs
  conv_rhs => rw [hcs]
  rw [trimChars_append_blank _ htail]

/-- Blanks go up to the last character that is none. -/
theorem trimEnd_append (hsolid : ∃ c ∈ cs, isBlank c = false) (front : List Char) :
    trimEnd (front ++ cs) = front ++ trimEnd cs := by
  obtain ⟨c, hc, hsolid⟩ := hsolid
  rw [trimEnd, trimEnd, List.reverse_append, List.dropWhile_append, if_neg]
  · simp
  · intro hempty
    rw [List.isEmpty_iff, List.dropWhile_eq_nil_iff] at hempty
    rw [hempty c (List.mem_reverse.mpr hc)] at hsolid
    cases hsolid

/-- Blanks at the end are dropped whether or not those in front are dropped first. -/
theorem dropWhile_trimEnd (cs : List Char) : (trimEnd cs).dropWhile isBlank = trimChars cs := by
  induction cs with
  | nil => rfl
  | cons c cs ih =>
    cases hc : isBlank c with
    | false => rw [trimEnd_cons hc, trimChars_cons hc, List.dropWhile_cons_of_neg (by simp [hc])]
    | true =>
      rw [trimChars, List.dropWhile_cons_of_pos hc, ← trimChars, ← ih]
      by_cases hsolid : ∃ d ∈ cs, isBlank d = false
      · rw [← List.singleton_append, trimEnd_append hsolid, List.singleton_append,
          List.dropWhile_cons_of_pos hc]
      · have hblank : ∀ d ∈ c :: cs, isBlank d = true := by simpa [hc] using hsolid
        have hempty : ∀ tail : List Char, (∀ d ∈ tail, isBlank d = true) → trimEnd tail = [] := by
          intro tail htail
          have hreverse : ∀ d ∈ tail.reverse, isBlank d = true := by simpa using htail
          rw [trimEnd, List.dropWhile_eq_nil_iff.mpr hreverse, List.reverse_nil]
        rw [hempty _ hblank, hempty _ (List.forall_mem_cons.mp hblank).2]

/-- Between the first and the last character that are no blanks, nothing is trimmed. -/
theorem trimChars_append {front : List Char} {last : Char}
    (hfirst : ∀ c ∈ (front ++ [last]).head?, isBlank c = false) (hlast : isBlank last = false)
    (back : List Char) : trimChars (front ++ last :: back) = front ++ last :: trimEnd back := by
  have hstart : (front ++ last :: back).dropWhile isBlank = front ++ last :: back := by
    cases front with
    | nil => exact List.dropWhile_cons_of_neg (by simp [hlast])
    | cons c front => exact List.dropWhile_cons_of_neg (by simp [hfirst c (by simp)])
  rw [trimChars, hstart, trimEnd_append ⟨last, by simp, hlast⟩, trimEnd_cons hlast]

theorem firstWord_trimChars (text : String) :
    firstWord (String.ofList (trimChars text.toList)) = firstWord text := by
  obtain ⟨tail, htext, htail⟩ := exists_trimEnd_append (text.toList.dropWhile isBlank)
  have hstart : (trimChars text.toList).dropWhile isBlank =
      trimEnd (text.toList.dropWhile isBlank) := by
    rw [trimChars, dropWhile_trimEnd, trimChars, List.dropWhile_idempotent]
  have hnone : tail.takeWhile (!isBlank ·) = [] := by
    cases tail with
    | nil => rfl
    | cons c tail => simp [htail c (by simp)]
  -- The word ends in front of the blanks that go, at the latest.
  have hword : (text.toList.dropWhile isBlank).takeWhile (!isBlank ·) =
      (trimEnd (text.toList.dropWhile isBlank)).takeWhile (!isBlank ·) := by
    nth_rewrite 1 [htext]
    rw [List.takeWhile_append, hnone, List.append_nil]
    split
    · rename_i hall
      exact ((List.takeWhile_prefix _).eq_of_length hall).symm
    · rfl
  rw [firstWord, firstWord, String.toList_ofList, hstart, hword]

/-! ## Cutting -/

theorem cutOnce_append (h : sep ∉ front) (back : List Char) :
    cutOnce sep (front ++ sep :: back) = some (front, back) := by
  have hfront : ∀ c ∈ front, (c != sep) = true := fun c hc => by
    rw [bne_iff_ne]
    rintro rfl
    exact h hc
  simp [cutOnce, List.dropWhile_append_of_pos hfront, List.takeWhile_append_of_pos hfront]

theorem cutOnce_eq_none (h : sep ∉ cs) : cutOnce sep cs = none := by
  have hall : cs.dropWhile (· != sep) = [] := List.dropWhile_eq_nil_iff.mpr fun c hc => by
    rw [bne_iff_ne]
    rintro rfl
    exact h hc
  simp [cutOnce, hall]

theorem cutOnce_eq_some_iff :
    cutOnce sep cs = some (front, back) ↔ cs = front ++ sep :: back ∧ sep ∉ front := by
  constructor
  · intro h
    by_cases hsep : sep ∈ cs
    · obtain ⟨front', back', rfl, hfront⟩ := List.eq_append_cons_of_mem hsep
      rw [cutOnce_append hfront] at h
      cases h
      exact ⟨rfl, hfront⟩
    · rw [cutOnce_eq_none hsep] at h
      cases h
  · rintro ⟨rfl, hfront⟩
    exact cutOnce_append hfront back

theorem pieces_append_line (h : '\n' ∉ cs) (back : List Char) :
    pieces (cs ++ '\n' :: back) = (cs ++ ['\n']) :: pieces back := by
  induction cs with
  | nil => simp [consPiece]
  | cons c cs ih =>
    obtain ⟨hc, hcs⟩ : '\n' ≠ c ∧ '\n' ∉ cs := by simpa using h
    simp [ih hcs, consPiece, Ne.symm hc]

theorem toLower_eq_or (c : Char) :
    c.toLower = c ∨ 65 ≤ c.toNat ∧ c.toNat ≤ 90 ∧ c.toLower.toNat = c.toNat + 32 := by
  by_cases h : c.val ≥ 'A'.val ∧ c.val ≤ 'Z'.val
  · have hlow : 65 ≤ c.val.toNat := UInt32.le_iff_toNat_le.mp h.1
    have hhigh : c.val.toNat ≤ 90 := UInt32.le_iff_toNat_le.mp h.2
    refine .inr ⟨hlow, hhigh, ?_⟩
    have hsum : (c.val + ('a'.val - 'A'.val)).toNat = c.val.toNat + 32 := by
      have hstep : ('a'.val - 'A'.val).toNat = 32 := rfl
      rw [UInt32.toNat_add, hstep]
      omega
    rw [Char.toLower, dif_pos h]
    exact hsum
  · exact .inl (by rw [Char.toLower, dif_neg h])

end ScriptBuild.Text
