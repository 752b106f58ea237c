import CheckerTags.Proofs.TextGrammar

/-!
# CheckerTags.Proofs.TextJoin

Reading a text with a separator in it, from what stands on its two sides. Each side is read by
itself, with the one difference that blanks beside a separator are an empty part and not the empty
set (`Flags.readBeside`); the error of the left side hides all that is wrong on the right.

Texts are alike if they are blank together and are read alike. A separator between alike texts
makes alike texts again, so blanks need only be looked at around a text without a separator, where
trimming takes them off.

* `Flags.ofText_bar`: a text from its two sides.
* `Flags.Alike.intercalate`: alike parts make alike texts.
* `Flags.alike_of_padded`: blanks around a text do not count.
-/

namespace CheckerTags

namespace Blank

/-- Whether a text is white space alone, or empty. -/
def isBlankText (s : String) : Bool := s.toList.all isBlank

theorem isBlankText_iff {s : String} : isBlankText s = true ↔ ∀ c ∈ s.toList, isBlank c = true :=
  List.all_eq_true

theorem isBlankText_append (s t : String) :
    isBlankText (s ++ t) = (isBlankText s && isBlankText t) := by
  rw [isBlankText, String.toList_append, List.all_append]
  rfl

theorem trim_eq_nil {s : String} (h : isBlankText s = true) : trim s.toList = [] := by
  have := trim_padded (isBlankText_iff.mp h) (List.forall_mem_nil _) []
  rwa [List.append_nil, List.append_nil] at this

end Blank

namespace Flags

open Blank (isBlankText)

variable {v : Vocab}

/-! ## Two sides of a separator -/

theorem readParts_append (ps qs : List (List Char)) :
    (readParts (ps ++ qs) : Except TextError (Flags v)) =
      (readParts ps).bind fun a => (readParts qs).map fun b => a ∪ b := by
  rw [readParts_eq_mapM, readParts_eq_mapM, readParts_eq_mapM, List.mapM_append]
  cases (ps.mapM readPart : Except TextError (List (Flags v))) with
  | error e => rfl
  | ok items =>
    cases (qs.mapM readPart : Except TextError (List (Flags v))) with
    | error e => rfl
    | ok others => exact congrArg Except.ok (unionAll_append items others)

theorem readParts_singleton (p : List Char) :
    (readParts [p] : Except TextError (Flags v)) = readPart p := by
  simp only [readParts]
  cases (readPart p : Except TextError (Flags v)) with
  | error e => rfl
  | ok a => simp only [union_empty]

/-- Reads a text that stands beside a separator, where blanks alone are not the empty set. -/
def readBeside (s : String) : Except TextError (Flags v) :=
  if isBlankText s then .error .emptyFlag else ofText s

theorem ofText_eq_ite (s : String) :
    (ofText s : Except TextError (Flags v)) =
      if isBlankText s then .ok ∅ else readParts (s.toList.splitOn '|') := rfl

theorem ofText_of_bar_not_mem {s : String} (h : '|' ∉ s.toList) :
    (ofText s : Except TextError (Flags v)) =
      if isBlankText s then .ok ∅ else readPart s.toList := by
  rw [ofText_eq_ite, List.splitOn_eq_singleton h, readParts_singleton]

theorem readParts_splitOn (s : String) :
    (readParts (s.toList.splitOn '|') : Except TextError (Flags v)) = readBeside s := by
  unfold readBeside
  by_cases h : isBlankText s = true
  · have hbar := bar_not_mem_of_forall (Blank.isBlankText_iff.mp h) rfl
    rw [if_pos h, List.splitOn_eq_singleton hbar, readParts_singleton, readPart,
      Blank.trim_eq_nil h]
    rfl
  · rw [if_neg h, ofText_eq_ite, if_neg h]

theorem isBlankText_bar (s t : String) : isBlankText (s ++ "|" ++ t) = false := by
  have hbar : isBlankText "|" = false := by decide
  rw [Blank.isBlankText_append, Blank.isBlankText_append, hbar, Bool.and_false, Bool.false_and]

theorem ofText_bar (s t : String) :
    (ofText (s ++ "|" ++ t) : Except TextError (Flags v)) =
      (readBeside s).bind fun a => (readBeside t).map fun b => a ∪ b := by
  have hsplit : (s ++ "|" ++ t).toList.splitOn '|' =
      s.toList.splitOn '|' ++ t.toList.splitOn '|' := by
    rw [String.toList_append, String.toList_append, List.append_assoc]
    exact List.splitOn_append_cons_self s.toList t.toList
  rw [ofText_eq_ite, isBlankText_bar, if_neg Bool.false_ne_true, hsplit, readParts_append,
    readParts_splitOn, readParts_splitOn]

/-! ## Alike texts -/

/-- Texts that are not told apart, neither alone nor beside a separator. -/
structure Alike (v : Vocab) (s t : String) : Prop where
  blank : isBlankText s = isBlankText t
  read : (ofText s : Except TextError (Flags v)) = ofText t

namespace Alike

theorem readBeside_eq {s t : String} (h : Alike v s t) :
    (readBeside s : Except TextError (Flags v)) = readBeside t := by
  rw [readBeside, readBeside, h.blank, h.read]

theorem bar {s s' t t' : String} (hs : Alike v s s') (ht : Alike v t t') :
    Alike v (s ++ "|" ++ t) (s' ++ "|" ++ t') where
  blank := by rw [isBlankText_bar, isBlankText_bar]
  read := by rw [ofText_bar, ofText_bar, hs.readBeside_eq, ht.readBeside_eq]

theorem intercalate {ps qs : List String} (h : List.Forall₂ (Alike v) ps qs) :
    Alike v ("|".intercalate ps) ("|".intercalate qs) := by
  induction h with
  | nil => exact ⟨rfl, rfl⟩
  | cons hp hps ih =>
    cases hps with
    | nil => simpa using hp
    | cons hp' hps' =>
      rw [String.intercalate_cons_cons, String.intercalate_cons_cons]
      exact hp.bar ih

end Alike

/-! ## Blanks around a text -/

/-- `t` is `s` with white space around it. -/
def Padded (s t : String) : Prop :=
  ∃ before after, isBlankText before = true ∧ isBlankText after = true ∧ t = before ++ s ++ after

theorem isBlankText_padded {before after : String} (hb : isBlankText before = true)
    (ha : isBlankText after = true) (s : String) :
    isBlankText (before ++ s ++ after) = isBlankText s := by
  rw [Blank.isBlankText_append, Blank.isBlankText_append, hb, ha, Bool.true_and, Bool.and_true]

theorem alike_of_bar_not_mem {before s after : String} (hb : isBlankText before = true)
    (ha : isBlankText after = true) (hs : '|' ∉ s.toList) :
    Alike v (before ++ s ++ after) s := by
  have hblank := isBlankText_padded hb ha s
  have hlist : (before ++ s ++ after).toList = before.toList ++ s.toList ++ after.toList := by
    rw [String.toList_append, String.toList_append]
  have hbefore := Blank.isBlankText_iff.mp hb
  have hafter := Blank.isBlankText_iff.mp ha
  have hbar : '|' ∉ (before ++ s ++ after).toList := by
    simp only [hlist, List.mem_append, not_or]
    exact ⟨⟨bar_not_mem_of_forall hbefore rfl, hs⟩, bar_not_mem_of_forall hafter rfl⟩
  have hpart : (readPart (before ++ s ++ after).toList : Except TextError (Flags v)) =
      readPart s.toList := by
    rw [readPart, readPart, hlist, Blank.trim_padded hbefore hafter]
  refine ⟨hblank, ?_⟩
  rw [ofText_of_bar_not_mem hbar, ofText_of_bar_not_mem hs, hblank, hpart]

theorem exists_first_bar {s : String} (h : '|' ∈ s.toList) :
    ∃ x y : String, s = x ++ "|" ++ y ∧ '|' ∉ x.toList := by
  obtain ⟨xs, ys, hs, hxs⟩ := List.eq_append_cons_of_mem h
  refine ⟨String.ofList xs, String.ofList ys, ?_, by simpa using hxs⟩
  apply String.toList_inj.mp
  simp [hs]

theorem alike_of_padded {s t : String} (h : Padded s t) : Alike v t s := by
  obtain ⟨before, after, hb, ha, rfl⟩ := h
  -- the blanks in front belong to the first part, and those behind to what follows its separator
  induction hn : s.toList.count '|' generalizing s before with
  | zero => exact alike_of_bar_not_mem hb ha (List.count_eq_zero.mp hn)
  | succ n ih =>
    have hbar : '|' ∈ s.toList := List.count_pos_iff.mp (by omega)
    obtain ⟨x, y, rfl, hx⟩ := exists_first_bar hbar
    have hempty : isBlankText "" = true := rfl
    have hfront : Alike v (before ++ x ++ "") x := alike_of_bar_not_mem hb hempty hx
    have hy : y.toList.count '|' = n := by
      have hzero : x.toList.count '|' = 0 := List.count_eq_zero.mpr hx
      have hone : "|".toList.count '|' = 1 := rfl
      rw [String.toList_append, String.toList_append, List.count_append, List.count_append] at hn
      omega
    have hback : Alike v ("" ++ y ++ after) y := ih "" hempty hy
    have hregroup : before ++ (x ++ "|" ++ y) ++ after =
        (before ++ x ++ "") ++ "|" ++ ("" ++ y ++ after) := by
      simp only [String.append_assoc, String.append_empty, String.empty_append]
    rw [hregroup]
    exact hfront.bar hback

/-- A text with a separator in it is read from its two sides, and what is wrong first, from left to
right, is the error. Blanks around a part or around the whole do not count. -/
theorem reading_composes (v : Vocab) :
    (∀ s t : String, (ofText (s ++ "|" ++ t) : Except TextError (Flags v)) =
      if isBlankText s then .error .emptyFlag
      else
        match (ofText s : Except TextError (Flags v)) with
        | .error e => .error e
        | .ok a =>
          if isBlankText t then .error .emptyFlag
          else
            match (ofText t : Except TextError (Flags v)) with
            | .error e => .error e
            | .ok b => .ok (a ∪ b)) ∧
    TextError.emptyFlag.message = "encountered empty flag" ∧
    (∀ ps qs : List String, List.Forall₂ Padded ps qs →
      (ofText ("|".intercalate qs) : Except TextError (Flags v)) = ofText ("|".intercalate ps)) ∧
    (∀ s t : String, Padded s t → (ofText t : Except TextError (Flags v)) = ofText s) := by
  refine ⟨?_, rfl, ?_, ?_⟩
  · intro s t
    rw [ofText_bar, readBeside, readBeside]
    cases isBlankText s with
    | true => rfl
    | false =>
      cases (ofText s : Except TextError (Flags v)) with
      | error e => rfl
      | ok a =>
        cases isBlankText t with
        | true => rfl
        | false => cases (ofText t : Except TextError (Flags v)) <;> rfl
  · intro ps qs h
    have halike : List.Forall₂ (Alike v) qs ps := h.flip.imp fun _ _ => alike_of_padded
    exact (Alike.intercalate halike).read
  · intro s t h
    exact (alike_of_padded h).read

/-- Padding makes neither a name of an unknown word nor a part of an empty one. -/
theorem reading_composes_bad_parts :
    let ps := ["PUBLIC", "", "static"]
    let qs := ["\tPUBLIC", "\u3000", " static\u00a0"]
    List.Forall₂ Padded ps qs ∧
    (ofText ("|".intercalate qs) : Except TextError ModifierFlags) = ofText ("|".intercalate ps) ∧
    (ofText ("|".intercalate ps) : Except TextError ModifierFlags) = .error .emptyFlag ∧
    Padded "OUT|static|0x" "\n OUT|static|0x " ∧
    (ofText "\n OUT|static|0x " : Except TextError ModifierFlags) = ofText "OUT|static|0x" ∧
    (ofText "OUT|static|0x" : Except TextError ModifierFlags) = .error .unknownName := by
  intro ps qs
  have hparts : List.Forall₂ Padded ps qs :=
    .cons ⟨"\t", "", rfl, rfl, rfl⟩
      (.cons ⟨"\u3000", "", rfl, rfl, rfl⟩ (.cons ⟨" ", "\u00a0", rfl, rfl, rfl⟩ .nil))
  have hwhole : Padded "OUT|static|0x" "\n OUT|static|0x " := ⟨"\n ", " ", rfl, rfl, rfl⟩
  have hread : (ofText ("|".intercalate ps) : Except TextError ModifierFlags) =
      .error .emptyFlag := by
    have hps : "|".intercalate ps = "PUBLIC||static" := rfl
    rw [hps]
    rfl
  obtain ⟨_, _, hpadparts, hpadwhole⟩ := reading_composes .modifier
  exact ⟨hparts, hpadparts ps qs hparts, hread, hwhole, hpadwhole _ _ hwhole, rfl⟩

end Flags
end CheckerTags
