/-!
# CheckerTags.Run

Runs of steps on a state. A step either fails, and then the state stays as it was, or gives a
reply and the state after it. A run records one entry for each step, whether it failed or not.

* `final_append`: two lists in a row end where the second ends from the end of the first.
* `getElem?_entries`: each entry is that of its step, taken where the steps before it lead to.
* `after_eq_final`: an entry tells the state that the steps so far lead to.
-/

namespace CheckerTags

/-- What is seen of a step: its reply or error, and the state after it. -/
structure Entry (σ ε ρ : Type) where
  outcome : Except ε ρ
  after : σ

namespace Run

variable {σ τ ε ρ : Type}

/-- The entry of one step taken in the state `s`. -/
def entry (step : σ → τ → Except ε (ρ × σ)) (s : σ) (t : τ) : Entry σ ε ρ :=
  match step s t with
  | .ok (reply, s') => ⟨.ok reply, s'⟩
  | .error e => ⟨.error e, s⟩

def entries (step : σ → τ → Except ε (ρ × σ)) : σ → List τ → List (Entry σ ε ρ)
  | _, [] => []
  | s, t :: ts => entry step s t :: entries step (entry step s t).after ts

def final (step : σ → τ → Except ε (ρ × σ)) : σ → List τ → σ
  | s, [] => s
  | s, t :: ts => final step (entry step s t).after ts

variable (step : σ → τ → Except ε (ρ × σ))

@[simp] theorem length_entries (s : σ) (ts : List τ) :
    (entries step s ts).length = ts.length := by
  induction ts generalizing s with
  | nil => rfl
  | cons t ts ih => simp [entries, ih]

theorem final_append (s : σ) (ts us : List τ) :
    final step s (ts ++ us) = final step (final step s ts) us := by
  induction ts generalizing s with
  | nil => rfl
  | cons t ts ih => exact ih _

theorem getElem?_entries (s : σ) (ts : List τ) (i : Nat) :
    (entries step s ts)[i]? = ts[i]?.map (entry step (final step s (ts.take i))) := by
  induction ts generalizing s i with
  | nil => rfl
  | cons t ts ih =>
    cases i with
    | zero => rfl
    | succ i => exact ih _ i

theorem after_eq_final {s : σ} {ts : List τ} {i : Nat} {e : Entry σ ε ρ}
    (h : (entries step s ts)[i]? = some e) : e.after = final step s (ts.take (i + 1)) := by
  induction ts generalizing s i with
  | nil => cases h
  | cons t ts ih =>
    cases i with
    | zero => exact congrArg Entry.after (Option.some.inj h).symm
    | succ i => exact ih h

end Run
end CheckerTags
