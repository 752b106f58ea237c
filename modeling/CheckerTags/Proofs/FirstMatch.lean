import CheckerTags.Proofs.ScanMask

/-!
# CheckerTags.Proofs.FirstMatch

How far a scan goes. It ends with the first item of a kind that is asked for, and if there is none
with the list (`Scan.firstAt_or_none`). Nothing behind the place where it ends has a part in its
outcome, and of the items before that only their kinds have.

* `Scan.through_eq_true`, `Scan.through_eq_false`: the two ways in which a scan ends.
* `Scan.through_append`: the scan of one list after another.
* `Scan.through_congr`: what a scan does not tell apart.
-/

namespace CheckerTags
namespace Scan

variable {μ ν : Type} [HasKind μ] [HasKind ν] {ks : List Kind} {items : List μ} {p : Nat}

/-! ## One item, then the rest -/

theorem through_cons_of_mem {m : μ} (h : HasKind.kind m ∈ ks) (rest : List μ) :
    through ks (m :: rest) = ⟨true, 1⟩ := by
  simp [through, h]

theorem through_cons_of_not_mem {m : μ} (h : HasKind.kind m ∉ ks) (rest : List μ) :
    through ks (m :: rest) = ⟨(through ks rest).found, (through ks rest).pulled + 1⟩ := by
  simp [through, h]

theorem through_append (xs ys : List μ) :
    through ks (xs ++ ys) =
      if (through ks xs).found then through ks xs
      else ⟨(through ks ys).found, xs.length + (through ks ys).pulled⟩ := by
  induction xs with
  | nil => simp [through]
  | cons x xs ih =>
    rw [List.cons_append]
    by_cases h : HasKind.kind x ∈ ks
    · rw [through_cons_of_mem h, through_cons_of_mem h, if_pos rfl]
    · rw [through_cons_of_not_mem h, through_cons_of_not_mem h, ih, List.length_cons]
      obtain ⟨found, pulled⟩ := through ks xs
      cases found with
      | true => rfl
      | false => simp only [Bool.false_eq_true, if_false, Nat.add_right_comm]

/-! ## Where a scan ends -/

/-- At position `p`, counted from one, stands the first item of a kind that is asked for. -/
def FirstAt (ks : List Kind) (items : List μ) (p : Nat) : Prop :=
  ∃ before m after, items = before ++ m :: after ∧ p = before.length + 1 ∧
    (∀ x ∈ before, HasKind.kind x ∉ ks) ∧ HasKind.kind m ∈ ks

theorem firstAt_or_none (ks : List Kind) (items : List μ) :
    (∃ p, FirstAt ks items p) ∨ ∀ x ∈ items, HasKind.kind x ∉ ks := by
  induction items with
  | nil => exact .inr (List.forall_mem_nil _)
  | cons m rest ih =>
    by_cases h : HasKind.kind m ∈ ks
    · exact .inl ⟨1, [], m, rest, rfl, rfl, List.forall_mem_nil _, h⟩
    · rcases ih with ⟨p, before, x, after, rfl, rfl, hbefore, hx⟩ | hnone
      · exact .inl ⟨_, m :: before, x, after, rfl, rfl, List.forall_mem_cons.mpr ⟨h, hbefore⟩, hx⟩
      · exact .inr (List.forall_mem_cons.mpr ⟨h, hnone⟩)

theorem through_of_none (h : ∀ x ∈ items, HasKind.kind x ∉ ks) :
    through ks items = ⟨false, items.length⟩ := by
  induction items with
  | nil => rfl
  | cons m rest ih =>
    obtain ⟨hm, hrest⟩ := List.forall_mem_cons.mp h
    rw [through_cons_of_not_mem hm, ih hrest, List.length_cons]

theorem through_of_firstAt (h : FirstAt ks items p) : through ks items = ⟨true, p⟩ := by
  obtain ⟨before, m, after, rfl, rfl, hbefore, hm⟩ := h
  rw [through_append, through_of_none hbefore, through_cons_of_mem hm]
  rfl

theorem through_eq_true : through ks items = ⟨true, p⟩ ↔ FirstAt ks items p := by
  constructor
  · intro h
    rcases firstAt_or_none ks items with ⟨q, hq⟩ | hnone
    · rw [through_of_firstAt hq] at h
      cases h
      exact hq
    · rw [through_of_none hnone] at h
      cases h
  · exact through_of_firstAt

theorem through_eq_false :
    through ks items = ⟨false, p⟩ ↔ (∀ x ∈ items, HasKind.kind x ∉ ks) ∧ p = items.length := by
  constructor
  · intro h
    rcases firstAt_or_none ks items with ⟨q, hq⟩ | hnone
    · rw [through_of_firstAt hq] at h
      cases h
    · rw [through_of_none hnone] at h
      cases h
      exact ⟨hnone, rfl⟩
  · rintro ⟨hnone, rfl⟩
    exact through_of_none hnone

theorem FirstAt.take_append (h : FirstAt ks items p) (rest : List μ) :
    FirstAt ks (items.take p ++ rest) p := by
  obtain ⟨before, m, after, rfl, rfl, hbefore, hm⟩ := h
  refine ⟨before, m, rest, ?_, rfl, hbefore, hm⟩
  rw [List.take_append, List.take_of_length_le (Nat.le_add_right _ _)]
  simp

/-! ## What a scan does not tell apart -/

theorem through_congr {ls : List Kind} (h : ∀ k, k ∈ ls ↔ k ∈ ks) {others : List ν}
    (hitems : others.map HasKind.kind = items.map HasKind.kind) :
    through ls others = through ks items := by
  induction items generalizing others with
  | nil =>
    rw [List.map_eq_nil_iff.mp hitems]
    rfl
  | cons m rest ih =>
    obtain ⟨n, others, rfl, hkind, hrest⟩ := List.map_eq_cons_iff.mp hitems
    have hmem : HasKind.kind n ∈ ls ↔ HasKind.kind m ∈ ks := by rw [hkind, h]
    by_cases hm : HasKind.kind m ∈ ks
    · rw [through_cons_of_mem hm, through_cons_of_mem (hmem.mpr hm)]
    · rw [through_cons_of_not_mem hm, through_cons_of_not_mem (mt hmem.mp hm), ih hrest]

end Scan

namespace Modifiers

open Scan (FirstAt)

/-- A scan ends with the first item of a kind that is asked for, else with the list. Neither what
stands behind that item nor the way in which items and kinds are given makes a difference. -/
theorem scan_stops_at_first_match {μ : Type} [HasKind μ] (ks : List Kind) :
    (∀ ms : Modifiers μ,
      (ms.has ks = true ↔ ∃ m ∈ ms.items, HasKind.kind m ∈ ks) ∧
      ms.has ks = (ms.scan ks).found ∧
      (∀ p, ms.scan ks = ⟨true, p⟩ ↔ FirstAt ks ms.items p) ∧
      (∀ p, ms.scan ks = ⟨false, p⟩ ↔
        (∀ x ∈ ms.items, HasKind.kind x ∉ ks) ∧ p = ms.items.length) ∧
      (∀ p, ms.scan ks = ⟨true, p⟩ → ∀ rest,
        Modifiers.scan (some (ms.items.take p ++ rest)) ks = ⟨true, p⟩)) ∧
    (∀ ms : Modifiers μ, ms.scan [] = ⟨false, ms.items.length⟩) ∧
    Modifiers.scan (none : Modifiers μ) ks = ⟨false, 0⟩ ∧
    (∀ xs ys : List μ, Modifiers.scan (some (xs ++ ys)) ks =
      if Modifiers.has (some xs) ks then Modifiers.scan (some xs) ks
      else ⟨Modifiers.has (some ys) ks, xs.length + (Modifiers.scan (some ys) ks).pulled⟩) ∧
    (∀ {ν : Type} [HasKind ν] (ms : Modifiers μ) (ns : Modifiers ν) (ls : List Kind),
      (∀ k, k ∈ ls ↔ k ∈ ks) → ns.kinds = ms.kinds → ns.scan ls = ms.scan ks) := by
  refine ⟨?_, ?_, rfl, fun xs ys => Scan.through_append xs ys, ?_⟩
  · intro ms
    rw [scan_eq_through_items]
    refine ⟨has_iff, ?_, fun p => Scan.through_eq_true, fun p => Scan.through_eq_false, ?_⟩
    · rw [has, scan_eq_through_items]
    · intro p hp rest
      exact Scan.through_eq_true.mpr ((Scan.through_eq_true.mp hp).take_append rest)
  · intro ms
    rw [scan_eq_through_items]
    exact Scan.through_of_none fun x _ => List.not_mem_nil
  · intro ν _ ms ns ls hmembers hkinds
    rw [scan_eq_through_items, scan_eq_through_items]
    exact Scan.through_congr hmembers hkinds

/-- The second of four items matches, in a list of handles on tokens as in one of kinds; `static` is
asked for twice in one of the two. -/
theorem scan_stops_at_first_match_handles :
    let ks : List Kind := [.readonly, .static]
    let ls : List Kind := [.static, .readonly, .static]
    let ms : Modifiers Kind := some [.public, .static, .readonly, .static]
    let ns : Modifiers (Handle Token) :=
      some [⟨⟨.public, 0⟩⟩, ⟨⟨.static, 7⟩⟩, ⟨⟨.readonly, 14⟩⟩, ⟨⟨.static, 23⟩⟩]
    let others : List Kind := [.abstract]
    ms.scan ks = ⟨true, 2⟩ ∧ FirstAt ks ms.items 2 ∧
    Modifiers.scan (some (ms.items.take 2 ++ others)) ks = ⟨true, 2⟩ ∧
    (∀ k, k ∈ ls ↔ k ∈ ks) ∧ ns.kinds = ms.kinds ∧ ns.scan ls = ⟨true, 2⟩ := by
  intro ks ls ms ns others
  have hscan : ms.scan ks = ⟨true, 2⟩ := by rfl
  have hmembers : ∀ k, k ∈ ls ↔ k ∈ ks := by
    intro k
    simp only [ls, ks, List.mem_cons, List.not_mem_nil, or_false]
    tauto
  have hkinds : ns.kinds = ms.kinds := by rfl
  obtain ⟨hmodifiers, _, _, _, hcongr⟩ := scan_stops_at_first_match (μ := Kind) ks
  obtain ⟨_, _, htrue, _, hrest⟩ := hmodifiers ms
  exact ⟨hscan, (htrue 2).mp hscan, hrest 2 hscan others, hmembers, hkinds,
    (hcongr ms ns ls hmembers hkinds).trans hscan⟩

end Modifiers
end CheckerTags
