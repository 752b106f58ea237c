import CheckerTags.Flags.Text
import Mathlib.Data.List.TakeWhile

/-!
# CheckerTags.Proofs.Padding

White space around a text. Trimming takes off blanks at both ends and nothing else
(`Blank.eq_padded_trim`), does not see blanks that are added there (`Blank.trim_padded`), and
leaves a text without blanks alone (`Blank.trim_of_no_blank`).
-/

namespace CheckerTags

/-- A separator is not among characters of a class that it does not belong to. -/
theorem bar_not_mem_of_forall {p : Char → Bool} {cs : List Char} (h : ∀ c ∈ cs, p c = true)
    (hp : p '|' = false) : '|' ∉ cs := by
  intro hbar
  rw [h '|' hbar] at hp
  cases hp

namespace Blank

theorem eq_padded_trim (cs : List Char) :
    ∃ before after, (∀ c ∈ before, isBlank c = true) ∧ (∀ c ∈ after, isBlank c = true) ∧
      cs = before ++ trim cs ++ after := by
  let rest := cs.dropWhile isBlank
  have hfront : cs = cs.takeWhile isBlank ++ rest := List.takeWhile_append_dropWhile.symm
  have hback : rest.reverse = rest.reverse.takeWhile isBlank ++ rest.reverse.dropWhile isBlank :=
    List.takeWhile_append_dropWhile.symm
  refine ⟨cs.takeWhile isBlank, (rest.reverse.takeWhile isBlank).reverse, ?_, ?_, ?_⟩
  · intro c hc
    exact List.all_eq_true.mp List.all_takeWhile c hc
  · intro c hc
    exact List.all_eq_true.mp List.all_takeWhile c (List.mem_reverse.mp hc)
  · have hrest : rest = trim cs ++ (rest.reverse.takeWhile isBlank).reverse := by
      have := congrArg List.reverse hback
      rwa [List.reverse_append, List.reverse_reverse] at this
    rw [List.append_assoc, ← hrest]
    exact hfront

theorem trim_padded {before after : List Char} (hb : ∀ c ∈ before, isBlank c = true)
    (ha : ∀ c ∈ after, isBlank c = true) (cs : List Char) :
    trim (before ++ cs ++ after) = trim cs := by
  have ha' : ∀ c ∈ after.reverse, isBlank c = true := fun c hc => ha c (List.mem_reverse.mp hc)
  unfold trim
  rw [List.append_assoc, List.dropWhile_append_of_pos hb, List.dropWhile_append]
  by_cases hcs : (cs.dropWhile isBlank).isEmpty = true
  · rw [if_pos hcs, List.dropWhile_eq_nil_iff.mpr ha, List.isEmpty_iff.mp hcs]
  · rw [if_neg hcs, List.reverse_append, List.dropWhile_append_of_pos ha']

theorem dropWhile_of_no_blank {cs : List Char} (h : ∀ c ∈ cs, isBlank c = false) :
    cs.dropWhile isBlank = cs := by
  cases cs with
  | nil => rfl
  | cons c cs => exact List.dropWhile_cons_of_neg (by simp [h c])

theorem trim_of_no_blank {cs : List Char} (h : ∀ c ∈ cs, isBlank c = false) : trim cs = cs := by
  have hrev : ∀ c ∈ cs.reverse, isBlank c = false := fun c hc => h c (List.mem_reverse.mp hc)
  unfold trim
  rw [dropWhile_of_no_blank h, dropWhile_of_no_blank hrev, List.reverse_reverse]

end Blank
end CheckerTags
