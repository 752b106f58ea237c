import CheckerTags.Run

/-!
# CheckerTags.Proofs.Simulation

One kind of run seen as another. States are looked at through a function `abs`, replies and errors
through `view`, and of the entries only some are `shown`. A step either has an image among the steps
of the other kind, and then it is seen to do what the image does, or it has none, and then it is not
shown and not seen to change the state. From this square for each step follows the same for whole
runs.

Steps that never change the state may also be left out of a run: the other steps do not notice.

* `Run.abs_final`: where a run ends is seen as where the run of the images ends.
* `Run.shown_entries`: what is shown of a run is the run of the images.
* `Run.entries_filter`: leaving steps out leaves out their entries and changes no other.
* `Run.entries_succeeding`: so it is with the steps that fail.
-/

namespace CheckerTags
namespace Run

variable {σ τ ε ρ σ' τ' ε' ρ' α : Type}

section

variable (step : σ → τ → Except ε (ρ × σ)) (step' : σ' → τ' → Except ε' (ρ' × σ'))
  (abs : σ → σ') (image? : τ → Option τ') (shown : Entry σ ε ρ → Bool)
  (view : Except ε ρ → α) (view' : Except ε' ρ' → α)

/-- A step that is simulated, from whatever state it is taken. -/
structure Simulated (t : τ) : Prop where
  hidden : image? t = none → ∀ s,
    shown (entry step s t) = false ∧ abs (entry step s t).after = abs s
  visible : ∀ t', image? t = some t' → ∀ s,
    shown (entry step s t) = true ∧
      view (entry step s t).outcome = view' (entry step' (abs s) t').outcome ∧
      abs (entry step s t).after = (entry step' (abs s) t').after

end

section

variable {step : σ → τ → Except ε (ρ × σ)} {step' : σ' → τ' → Except ε' (ρ' × σ')}
  {abs : σ → σ'} {image? : τ → Option τ'} {shown : Entry σ ε ρ → Bool}
  {view : Except ε ρ → α} {view' : Except ε' ρ' → α}

theorem Simulated.of_eq_none {t : τ} (hi : image? t = none)
    (h : ∀ s, shown (entry step s t) = false ∧ abs (entry step s t).after = abs s) :
    Simulated step step' abs image? shown view view' t where
  hidden _ := h
  visible t' ht' := by rw [hi] at ht'; cases ht'

theorem Simulated.of_eq_some {t : τ} {t' : τ'} (hi : image? t = some t')
    (h : ∀ s, shown (entry step s t) = true ∧
      view (entry step s t).outcome = view' (entry step' (abs s) t').outcome ∧
      abs (entry step s t).after = (entry step' (abs s) t').after) :
    Simulated step step' abs image? shown view view' t where
  hidden hn := by rw [hi] at hn; cases hn
  visible u hu := by
    rw [hi] at hu
    cases hu
    exact h

variable {ts : List τ}

theorem abs_final (h : ∀ t ∈ ts, Simulated step step' abs image? shown view view' t) (s : σ) :
    abs (final step s ts) = final step' (abs s) (ts.filterMap image?) := by
  induction ts generalizing s with
  | nil => rfl
  | cons t ts ih =>
    obtain ⟨ht, hts⟩ := List.forall_mem_cons.mp h
    have hrest := ih hts (entry step s t).after
    cases hi : image? t with
    | none =>
      rw [(ht.hidden hi s).2] at hrest
      rw [List.filterMap_cons_none hi]
      exact hrest
    | some t' =>
      rw [(ht.visible t' hi s).2.2] at hrest
      rw [List.filterMap_cons_some hi]
      exact hrest

theorem shown_entries (h : ∀ t ∈ ts, Simulated step step' abs image? shown view view' t) (s : σ) :
    ((entries step s ts).filter shown).map (fun e => (view e.outcome, abs e.after)) =
      (entries step' (abs s) (ts.filterMap image?)).map fun e => (view' e.outcome, e.after) := by
  induction ts generalizing s with
  | nil => rfl
  | cons t ts ih =>
    obtain ⟨ht, hts⟩ := List.forall_mem_cons.mp h
    have hrest := ih hts (entry step s t).after
    cases hi : image? t with
    | none =>
      obtain ⟨hshown, hafter⟩ := ht.hidden hi s
      rw [hafter] at hrest
      rw [List.filterMap_cons_none hi, entries, List.filter_cons_of_neg (by simp [hshown])]
      exact hrest
    | some t' =>
      obtain ⟨hshown, hview, hafter⟩ := ht.visible t' hi s
      rw [hafter] at hrest
      rw [List.filterMap_cons_some hi, entries, List.filter_cons_of_pos hshown, entries,
        List.map_cons, List.map_cons, hview, hafter, hrest]

end

/-! ## Leaving steps out -/

section

variable {step : σ → τ → Except ε (ρ × σ)} {keep : τ → Bool} {ts : List τ}

theorem final_filter (h : ∀ t ∈ ts, keep t = false → ∀ s, (entry step s t).after = s) (s : σ) :
    final step s (ts.filter keep) = final step s ts := by
  induction ts generalizing s with
  | nil => rfl
  | cons t ts ih =>
    obtain ⟨ht, hts⟩ := List.forall_mem_cons.mp h
    cases hkeep : keep t with
    | true =>
      rw [List.filter_cons_of_pos hkeep]
      exact ih hts _
    | false =>
      rw [List.filter_cons_of_neg (by simp [hkeep]), final, ht hkeep s]
      exact ih hts s

theorem entries_filter (h : ∀ t ∈ ts, keep t = false → ∀ s, (entry step s t).after = s) (s : σ) :
    entries step s (ts.filter keep) =
      ((ts.zip (entries step s ts)).filter fun p => keep p.1).map Prod.snd := by
  induction ts generalizing s with
  | nil => rfl
  | cons t ts ih =>
    obtain ⟨ht, hts⟩ := List.forall_mem_cons.mp h
    rw [entries, List.zip_cons_cons]
    cases hkeep : keep t with
    | true =>
      rw [List.filter_cons_of_pos hkeep, List.filter_cons_of_pos (by simp [hkeep]), List.map_cons,
        entries, ih hts]
    | false =>
      rw [List.filter_cons_of_neg (by simp [hkeep]), List.filter_cons_of_neg (by simp [hkeep]),
        ht hkeep s, ih hts]

end

/-! ## Failing steps -/

section

variable {step : σ → τ → Except ε (ρ × σ)}

theorem after_of_error {s : σ} {t : τ} (h : (entry step s t).outcome.isOk = false) :
    (entry step s t).after = s := by
  unfold entry at h ⊢
  cases hstep : step s t with
  | error e => rfl
  | ok r =>
    rw [hstep] at h
    cases h

variable (step) in
/-- The steps of a run that do not fail. -/
def succeeding (s : σ) (ts : List τ) : List τ :=
  ((ts.zip (entries step s ts)).filter fun p => p.2.outcome.isOk).map Prod.fst

theorem succeeding_cons (s : σ) (t : τ) (ts : List τ) :
    succeeding step s (t :: ts) =
      if (entry step s t).outcome.isOk then t :: succeeding step (entry step s t).after ts
      else succeeding step s ts := by
  unfold succeeding
  rw [entries, List.zip_cons_cons, List.filter_cons]
  cases h : (entry step s t).outcome.isOk with
  | true => rfl
  | false => rw [after_of_error h]; rfl

/-- Whether a step fails may depend on the state, so it is the run that tells which ones to leave
out. -/
theorem entries_succeeding (s : σ) (ts : List τ) :
    entries step s (succeeding step s ts) =
      (entries step s ts).filter fun e => e.outcome.isOk := by
  induction ts generalizing s with
  | nil => rfl
  | cons t ts ih =>
    rw [succeeding_cons, entries, List.filter_cons]
    cases h : (entry step s t).outcome.isOk with
    | true => rw [if_pos rfl, if_pos rfl, entries, ih]
    | false => rw [if_neg Bool.false_ne_true, if_neg Bool.false_ne_true, after_of_error h, ih]

theorem final_succeeding (s : σ) (ts : List τ) :
    final step s (succeeding step s ts) = final step s ts := by
  induction ts generalizing s with
  | nil => rfl
  | cons t ts ih =>
    rw [succeeding_cons, final]
    cases h : (entry step s t).outcome.isOk with
    | true => exact ih _
    | false => rw [if_neg Bool.false_ne_true, after_of_error h, ih]

end

end Run
end CheckerTags
