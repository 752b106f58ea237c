import CheckerTags.Text.Numeral
import Mathlib.Data.List.Induction
import Mathlib.Tactic.IntervalCases

/-!
# CheckerTags.Proofs.Numerals

What a numeral denotes, said without the reader: a numeral is a digit, or a numeral and one more
digit (`Numeral.Denotes`). The writer and the reader are both measured against it.

* `Numeral.denotes_toDigits`: what is written denotes the number it was written for.
* `Numeral.hexValue?_eq_some`: hexadecimal digits are read as the number they denote.
* `Numeral.readWord?_eq_some`: so are words, and a number past the word is refused.
-/

namespace CheckerTags
namespace Numeral

/-- `c` is the digit of value `d`. A letter may stand in either case. -/
def IsDigit (base : Nat) (c : Char) (d : Nat) : Prop :=
  d < base ∧ (c = d.digitChar ∨ c = d.digitChar.toUpper)

/-- One or more digits, and the number that they denote. -/
inductive Denotes (base : Nat) : List Char → Nat → Prop where
  | digit {c : Char} {d : Nat} : IsDigit base c d → Denotes base [c] d
  | snoc {cs : List Char} {c : Char} {n d : Nat} :
      Denotes base cs n → IsDigit base c d → Denotes base (cs ++ [c]) (base * n + d)

/-- A hexadecimal numeral of a word: digits, behind at most one plus sign. The number that they
denote, however long they are, has to be one of a word. -/
inductive DenotesWord : List Char → BitVec 32 → Prop where
  | bare {digits : List Char} {n : Nat} :
      Denotes 16 digits n → n < 0x100000000 → DenotesWord digits (BitVec.ofNat 32 n)
  | plus {digits : List Char} {n : Nat} :
      Denotes 16 digits n → n < 0x100000000 → DenotesWord ('+' :: digits) (BitVec.ofNat 32 n)

namespace Denotes

variable {base : Nat}

theorem ne_nil {cs : List Char} {n : Nat} (h : Denotes base cs n) : cs ≠ [] := by
  cases h <;> simp

theorem isDigit_of_mem {cs : List Char} {n : Nat} (h : Denotes base cs n) :
    ∀ c ∈ cs, ∃ d, IsDigit base c d := by
  induction h with
  | @digit c d hd =>
    intro x hx
    rw [List.mem_singleton] at hx
    exact ⟨d, hx ▸ hd⟩
  | @snoc cs c n d _ hd ih =>
    intro x hx
    rw [List.mem_append, List.mem_singleton] at hx
    rcases hx with hx | rfl
    · exact ih x hx
    · exact ⟨d, hd⟩

theorem concat_iff {cs : List Char} {c : Char} {n : Nat} :
    Denotes base (cs ++ [c]) n ↔
      (cs = [] ∧ IsDigit base c n) ∨
        ∃ m d, Denotes base cs m ∧ IsDigit base c d ∧ n = base * m + d := by
  constructor
  · intro h
    generalize hl : cs ++ [c] = l at h
    cases h with
    | @digit x d hd =>
      obtain ⟨rfl, rfl⟩ : cs = [] ∧ c = x := by
        simpa [List.append_eq_singleton_iff] using hl
      exact .inl ⟨rfl, hd⟩
    | @snoc cs' c' m d hm hd =>
      obtain ⟨rfl, hc⟩ := List.append_inj' hl rfl
      obtain rfl := List.singleton_inj.mp hc
      exact .inr ⟨m, d, hm, hd, rfl⟩
  · rintro (⟨rfl, hd⟩ | ⟨m, d, hm, hd, rfl⟩)
    · exact .digit hd
    · exact .snoc hm hd

end Denotes

/-! ## Writing -/

/-- Induction along the digits that are written: one digit, or the digits of a smaller number that
is not zero and one more digit. -/
theorem toDigits_induction {base : Nat} (hb : 1 < base) {motive : Nat → List Char → Prop}
    (digit : ∀ n < base, motive n [n.digitChar])
    (snoc : ∀ n d, 0 < n → d < base → motive n (Nat.toDigits base n) →
      motive (base * n + d) (Nat.toDigits base n ++ [d.digitChar]))
    (n : Nat) : motive n (Nat.toDigits base n) := by
  induction n using Nat.strong_induction_on with
  | _ n ih =>
    by_cases hn : n < base
    · rw [Nat.toDigits_of_lt_base hn]
      exact digit n hn
    · have hle : base ≤ n := Nat.le_of_not_lt hn
      have hdiv : n / base < n := Nat.div_lt_self (by omega) hb
      have hpos : 0 < n / base := Nat.div_pos hle (by omega)
      have hmod : n % base < base := Nat.mod_lt n (by omega)
      have h := snoc (n / base) (n % base) hpos hmod (ih (n / base) hdiv)
      rw [Nat.toDigits_of_base_le hb hle]
      rwa [Nat.div_add_mod] at h

theorem denotes_toDigits {base : Nat} (hb : 1 < base) (n : Nat) :
    Denotes base (Nat.toDigits base n) n :=
  toDigits_induction hb (motive := fun n cs => Denotes base cs n)
    (fun _ hn => .digit ⟨hn, .inl rfl⟩) (fun _ _ _ hd h => .snoc h ⟨hd, .inl rfl⟩) n

/-! ## Reading -/

theorem hexDigit?_digitChar : ∀ d < 16,
    hexDigit? d.digitChar = some d ∧ hexDigit? d.digitChar.toUpper = some d := by
  decide

theorem toNat_digitChar_letter {d : Nat} (h10 : 10 ≤ d) (h16 : d < 16) :
    d.digitChar.toNat = 87 + d ∧ d.digitChar.toUpper.toNat = 55 + d := by
  interval_cases d <;> decide

theorem hexDigit?_eq_some {c : Char} {d : Nat} : hexDigit? c = some d ↔ IsDigit 16 c d := by
  constructor
  · intro h
    unfold hexDigit? at h
    split at h
    · rename_i hc
      change 48 ≤ c.toNat ∧ c.toNat ≤ 57 at hc
      obtain rfl : c.toNat - 48 = d := Option.some.inj h
      have hlt : c.toNat - 48 < 10 := by omega
      refine ⟨by omega, .inl (Char.toNat_inj.mp ?_)⟩
      rw [Nat.toNat_digitChar_of_lt_ten hlt]
      omega
    · split at h
      · rename_i hc
        change 97 ≤ c.toNat ∧ c.toNat ≤ 102 at hc
        obtain rfl : c.toNat - 97 + 10 = d := Option.some.inj h
        refine ⟨by omega, .inl (Char.toNat_inj.mp ?_)⟩
        rw [(toNat_digitChar_letter (by omega) (by omega)).1]
        omega
      · split at h
        · rename_i hc
          change 65 ≤ c.toNat ∧ c.toNat ≤ 70 at hc
          obtain rfl : c.toNat - 65 + 10 = d := Option.some.inj h
          refine ⟨by omega, .inr (Char.toNat_inj.mp ?_)⟩
          rw [(toNat_digitChar_letter (by omega) (by omega)).2]
          omega
        · cases h
  · rintro ⟨hd, rfl | rfl⟩
    · exact (hexDigit?_digitChar d hd).1
    · exact (hexDigit?_digitChar d hd).2

theorem hexValue?_singleton (c : Char) : hexValue? [c] = hexDigit? c := by
  cases h : hexDigit? c <;> simp [hexValue?, ofDigits, h]

theorem hexValue?_concat {cs : List Char} (hcs : cs ≠ []) (c : Char) :
    hexValue? (cs ++ [c]) =
      (hexValue? cs).bind fun n => (hexDigit? c).map fun d => 16 * n + d := by
  obtain ⟨x, xs, rfl⟩ := List.exists_cons_of_ne_nil hcs
  have happ : hexValue? (x :: xs ++ [c]) =
      ((x :: xs ++ [c]).mapM hexDigit?).map (ofDigits 16) := rfl
  have hpre : hexValue? (x :: xs) = ((x :: xs).mapM hexDigit?).map (ofDigits 16) := rfl
  rw [happ, hpre, List.mapM_append]
  cases (x :: xs).mapM hexDigit? with
  | none => rfl
  | some ds => cases h : hexDigit? c <;> simp [h, ofDigits]

theorem hexValue?_eq_some {cs : List Char} {n : Nat} :
    hexValue? cs = some n ↔ Denotes 16 cs n := by
  -- from the right: the last digit is the one that is added to sixteen times the rest
  induction cs using List.reverseRecOn generalizing n with
  | nil => exact ⟨fun h => (by cases h), fun h => absurd rfl h.ne_nil⟩
  | append_singleton cs c ih =>
    rw [Denotes.concat_iff]
    by_cases hcs : cs = []
    · subst hcs
      have hnil : ∀ m, ¬ Denotes 16 [] m := fun m h => h.ne_nil rfl
      simp [hexValue?_singleton, hexDigit?_eq_some, hnil]
    · rw [hexValue?_concat hcs]
      simp only [hcs, false_and, false_or, Option.bind_eq_some_iff, Option.map_eq_some_iff, ih,
        hexDigit?_eq_some]
      constructor
      · rintro ⟨m, hm, d, hd, rfl⟩
        exact ⟨m, d, hm, hd, rfl⟩
      · rintro ⟨m, d, hm, hd, rfl⟩
        exact ⟨m, hm, d, hd, rfl⟩

theorem eq_dropPlus_or (cs : List Char) : cs = dropPlus cs ∨ cs = '+' :: dropPlus cs := by
  unfold dropPlus
  split <;> simp

/-- A sign is no digit, so a numeral without one is left alone. -/
theorem dropPlus_of_denotes {cs : List Char} {n : Nat} (h : Denotes 16 cs n) :
    dropPlus cs = cs := by
  unfold dropPlus
  split
  · rename_i cs
    obtain ⟨d, hd⟩ := h.isDigit_of_mem '+' (by simp)
    rw [← hexDigit?_eq_some] at hd
    cases hd
  · rfl

theorem readWord?_eq_ite {cs digits : List Char} {n : Nat} (hcs : dropPlus cs = digits)
    (h : Denotes 16 digits n) :
    readWord? cs = if n < 0x100000000 then some (BitVec.ofNat 32 n) else none := by
  unfold readWord?
  rw [hcs, hexValue?_eq_some.mpr h]

theorem readWord?_of_denotes {cs digits : List Char} {n : Nat} (hcs : dropPlus cs = digits)
    (h : Denotes 16 digits n) (hn : n < 0x100000000) :
    readWord? cs = some (BitVec.ofNat 32 n) := by
  rw [readWord?_eq_ite hcs h, if_pos hn]

theorem readWord?_eq_some {cs : List Char} {word : BitVec 32} :
    readWord? cs = some word ↔ DenotesWord cs word := by
  constructor
  · intro h
    unfold readWord? at h
    split at h
    · rename_i n hn
      split at h
      · rename_i hlt
        obtain rfl := Option.some.inj h
        have hd := hexValue?_eq_some.mp hn
        rcases eq_dropPlus_or cs with hcs | hcs
        · rw [hcs]
          exact .bare hd hlt
        · rw [hcs]
          exact .plus hd hlt
      · cases h
    · cases h
  · intro h
    cases h with
    | bare hd hlt => exact readWord?_of_denotes (dropPlus_of_denotes hd) hd hlt
    | plus hd hlt => exact readWord?_of_denotes rfl hd hlt

end Numeral
end CheckerTags
