import CheckerTags.Proofs.TextJoin
import CheckerTags.Proofs.TextRoundTrip

/-!
# CheckerTags.Proofs.NumeralForms

The numerals of a set of flags. A word is written as the one numeral that has lower-case digits and
no zero in front of other digits (`Numeral.Canonical`). It is read from this numeral, from what
becomes of it by zeros in front, another case of letters and a plus sign (`Numeral.Variant`), and
from nothing else; so a numeral that is too large for a word, however it is spelled, is refused.

* `Numeral.canonical_toDigits`: what is written.
* `Numeral.denotes_iff_respells`: the digits that denote a number.
* `Numeral.readWord?_eq_some_iff`: what is read as a word.
* `Flags.ofText_numeral`: a text that is a numeral.
-/

namespace CheckerTags
namespace Numeral

/-! ## Canonical numerals -/

/-- A numeral as it is written: in lower case, and with no zero in front of other digits. -/
structure Canonical (base : Nat) (cs : List Char) (n : Nat) : Prop where
  denotes : Denotes base cs n
  lower : ∀ c ∈ cs, ∃ d < base, c = d.digitChar
  leading : ∀ rest, cs = '0' :: rest → n = 0 ∧ rest = []

theorem canonical_toDigits {base : Nat} (hb : 1 < base) (n : Nat) :
    Canonical base (Nat.toDigits base n) n := by
  refine toDigits_induction hb (motive := fun n cs => Canonical base cs n) ?digit ?snoc n
  case digit =>
    intro n hn
    refine ⟨.digit ⟨hn, .inl rfl⟩, ?_, ?_⟩
    · exact List.forall_mem_singleton.mpr ⟨n, hn, rfl⟩
    · intro rest h
      obtain ⟨hzero, hrest⟩ := List.cons.inj h
      exact ⟨Nat.digitChar_eq_zero.mp hzero, hrest.symm⟩
  case snoc =>
    intro n d hn hd h
    refine ⟨.snoc h.denotes ⟨hd, .inl rfl⟩, ?_, ?_⟩
    · exact List.forall_mem_append.mpr ⟨h.lower, List.forall_mem_singleton.mpr ⟨d, hd, rfl⟩⟩
    · intro rest hzero
      -- a zero in front would already stand in front of the digits of `n`
      obtain ⟨c, cs, hcs⟩ := List.exists_cons_of_ne_nil h.denotes.ne_nil
      rw [hcs, List.cons_append] at hzero
      rw [(List.cons.inj hzero).1] at hcs
      have := (h.leading cs hcs).1
      omega

theorem canonical_write {base : Nat} (hb : 1 < base) (word : BitVec 32) :
    Canonical base (write base word) word.toNat :=
  canonical_toDigits hb word.toNat

/-! ## A numeral denotes one number -/

theorem IsDigit.unique {base : Nat} (hb : base ≤ 16) {c : Char} {d e : Nat}
    (hd : IsDigit base c d) (he : IsDigit base c e) : d = e := by
  have hd16 : IsDigit 16 c d := ⟨hd.1.trans_le hb, hd.2⟩
  have he16 : IsDigit 16 c e := ⟨he.1.trans_le hb, he.2⟩
  rw [← hexDigit?_eq_some] at hd16 he16
  exact Option.some.inj (hd16.symm.trans he16)

theorem Denotes.unique {base : Nat} (hb : base ≤ 16) {cs : List Char} {m n : Nat}
    (hm : Denotes base cs m) (hn : Denotes base cs n) : m = n := by
  induction hm generalizing n with
  | @digit c d hd =>
    rw [← List.nil_append [c], concat_iff] at hn
    rcases hn with ⟨_, he⟩ | ⟨_, _, hnil, _⟩
    · exact hd.unique hb he
    · exact absurd rfl hnil.ne_nil
  | @snoc cs c m d hm hd ih =>
    rcases concat_iff.mp hn with ⟨hnil, _⟩ | ⟨m', d', hm', hd', rfl⟩
    · exact absurd hnil hm.ne_nil
    · rw [ih hm', hd.unique hb hd']

theorem write_injective {base : Nat} (hb : 1 < base) (hb16 : base ≤ 16) :
    Function.Injective (write base) := by
  intro x y h
  have hx := denotes_toDigits hb x.toNat
  have hy := denotes_toDigits hb y.toNat
  rw [← write, h] at hx
  exact BitVec.eq_of_toNat_eq (hx.unique hb16 hy)

/-! ## Spellings of a numeral -/

/-- `d` is the character `c`, or its upper case. -/
def InEitherCase (d c : Char) : Prop := d = c ∨ d = c.toUpper

/-- The digits of `cs` in either case each, with any number of zeros in front. -/
inductive Respells (cs : List Char) : List Char → Prop where
  | zeros (k : Nat) {ds : List Char} :
      List.Forall₂ InEitherCase ds cs → Respells cs (List.replicate k '0' ++ ds)

/-- Such digits, behind at most one plus sign. -/
inductive Variant (cs : List Char) : List Char → Prop where
  | bare {ds : List Char} : Respells cs ds → Variant cs ds
  | plus {ds : List Char} : Respells cs ds → Variant cs ('+' :: ds)

theorem denotes_of_either_case {base : Nat} (hb : 1 < base) (n : Nat) {ds : List Char}
    (h : List.Forall₂ InEitherCase ds (Nat.toDigits base n)) : Denotes base ds n := by
  revert ds
  refine toDigits_induction hb
    (motive := fun n cs => ∀ {ds}, List.Forall₂ InEitherCase ds cs → Denotes base ds n)
    ?digit ?snoc n
  case digit =>
    intro n hn ds h
    cases h with
    | cons hd hnil =>
      cases hnil
      exact .digit ⟨hn, hd⟩
  case snoc =>
    intro n d _ hd ih ds h
    rw [← List.take_append_drop (Nat.toDigits base n).length ds]
    have hlast := List.forall₂_drop_append ds (Nat.toDigits base n) [d.digitChar] h
    have hinit := List.forall₂_take_append ds (Nat.toDigits base n) [d.digitChar] h
    generalize ds.drop (Nat.toDigits base n).length = last at hlast ⊢
    cases hlast with
    | cons hc hnil =>
      cases hnil
      exact .snoc (ih hinit) ⟨hd, hc⟩

theorem denotes_zeros {base : Nat} (hb : 0 < base) {cs : List Char} {n : Nat}
    (h : Denotes base cs n) (k : Nat) : Denotes base (List.replicate k '0' ++ cs) n := by
  have hzero : Denotes base ['0'] 0 := .digit ⟨hb, .inl rfl⟩
  have hcons : ∀ {ds : List Char} {m : Nat}, Denotes base ds m → Denotes base ('0' :: ds) m := by
    intro ds m hm
    induction hm with
    | digit hd => simpa using Denotes.snoc hzero hd
    | snoc _ hd ih => exact .snoc ih hd
  induction k with
  | zero => exact h
  | succ k ih => exact hcons ih

theorem respells_of_denotes {base : Nat} (hb : 1 < base) {cs : List Char} {n : Nat}
    (h : Denotes base cs n) : Respells (Nat.toDigits base n) cs := by
  induction h with
  | @digit c d hd =>
    rw [Nat.toDigits_of_lt_base hd.1]
    exact .zeros 0 (.cons hd.2 .nil)
  | @snoc cs c n d _ hd ih =>
    have hc : InEitherCase c d.digitChar := hd.2
    cases ih with
    | @zeros k ds hds =>
      by_cases hn : n = 0
      · -- nothing but zeros so far, and they stand in front of the new digit
        subst hn
        rw [Nat.toDigits_zero] at hds
        have hzeros : List.replicate k '0' ++ ds = List.replicate (k + 1) '0' := by
          cases hds with
          | cons hzero hnil =>
            cases hnil
            rw [List.replicate_succ']
            rcases hzero with rfl | rfl <;> rfl
        rw [hzeros, Nat.mul_zero, Nat.zero_add, Nat.toDigits_of_lt_base hd.1]
        exact .zeros (k + 1) (.cons hc .nil)
      · rw [← Nat.toDigits_append_toDigits hb (Nat.pos_of_ne_zero hn) hd.1,
          Nat.toDigits_of_lt_base hd.1, List.append_assoc]
        exact .zeros k (List.rel_append hds (.cons hc .nil))

theorem denotes_iff_respells {base : Nat} (hb : 1 < base) {cs : List Char} {n : Nat} :
    Denotes base cs n ↔ Respells (Nat.toDigits base n) cs := by
  constructor
  · exact respells_of_denotes hb
  · rintro ⟨k, hds⟩
    exact denotes_zeros (by omega) (denotes_of_either_case hb n hds) k

/-! ## Reading -/

theorem denotes_dropPlus {cs : List Char} {n : Nat} (h : Variant (Nat.toDigits 16 n) cs) :
    Denotes 16 (dropPlus cs) n := by
  cases h with
  | bare h =>
    have hd := (denotes_iff_respells (by omega)).mpr h
    rwa [dropPlus_of_denotes hd]
  | plus h => exact (denotes_iff_respells (by omega)).mpr h

theorem variant_of_denotesWord {cs : List Char} {word : BitVec 32} (h : DenotesWord cs word) :
    Variant (write 16 word) cs := by
  have hwrite {n : Nat} (hn : n < 0x100000000) :
      write 16 (BitVec.ofNat 32 n) = Nat.toDigits 16 n := by
    rw [write, BitVec.toNat_ofNat, Nat.mod_eq_of_lt hn]
  cases h with
  | bare hd hn =>
    rw [hwrite hn]
    exact .bare (respells_of_denotes (by omega) hd)
  | plus hd hn =>
    rw [hwrite hn]
    exact .plus (respells_of_denotes (by omega) hd)

theorem readWord?_eq_some_iff {cs : List Char} {word : BitVec 32} :
    readWord? cs = some word ↔ Variant (write 16 word) cs := by
  constructor
  · intro h
    exact variant_of_denotesWord (readWord?_eq_some.mp h)
  · intro h
    rw [readWord?_eq_ite rfl (denotes_dropPlus h), if_pos word.isLt, BitVec.ofNat_toNat,
      BitVec.setWidth_eq]

theorem readWord?_eq_none {cs : List Char} {n : Nat} (hn : 0x100000000 ≤ n)
    (h : Variant (Nat.toDigits 16 n) cs) : readWord? cs = none := by
  rw [readWord?_eq_ite rfl (denotes_dropPlus h), if_neg (Nat.not_lt.mpr hn)]

end Numeral

namespace Flags

variable {v : Vocab}

/-! ## Forms of a set -/

theorem canonical_written {base : Nat} (hb : 1 < base) (a : Flags v) :
    Numeral.Canonical base (String.ofList (Numeral.write base a.bits)).toList a.bits.toNat := by
  rw [String.toList_ofList]
  exact Numeral.canonical_write hb a.bits

theorem written_injective {base : Nat} (hb : 1 < base) (hb16 : base ≤ 16) :
    Function.Injective fun a : Flags v => String.ofList (Numeral.write base a.bits) := by
  intro a b h
  exact Flags.ext (Numeral.write_injective hb hb16 (String.ofList_injective h))

theorem hex_injective : Function.Injective (hex : Flags v → String) := by
  intro a b h
  exact written_injective (by omega) (by omega) (String.append_right_inj "0x" |>.mp h)

/-! ## Texts that are a numeral -/

theorem isPlain_of_variant {cs : List Char} {n : Nat}
    (h : Numeral.Variant (Nat.toDigits 16 n) cs) : ∀ c ∈ cs, isPlain c = true := by
  cases h with
  | bare h => exact isPlain_of_denotes ((Numeral.denotes_iff_respells (by omega)).mpr h)
  | plus h =>
    exact List.forall_mem_cons.mpr
      ⟨by decide, isPlain_of_denotes ((Numeral.denotes_iff_respells (by omega)).mpr h)⟩

theorem ofText_numeral {cs : List Char} (hplain : ∀ c ∈ cs, isPlain c = true) :
    (ofText ("0x" ++ String.ofList cs) : Except TextError (Flags v)) =
      (Numeral.readWord? cs).elim (.error .invalidHex) fun word => .ok ⟨word⟩ := by
  have hlist : ("0x" ++ String.ofList cs).toList = '0' :: 'x' :: cs := by simp
  have hall : ∀ c ∈ '0' :: 'x' :: cs, isPlain c = true :=
    List.forall_mem_cons.mpr ⟨by decide, List.forall_mem_cons.mpr ⟨by decide, hplain⟩⟩
  have hblank : Blank.isBlankText ("0x" ++ String.ofList cs) = false := by
    rw [Blank.isBlankText_append]
    rfl
  rw [ofText_of_bar_not_mem (by rw [hlist]; exact bar_not_mem_of_forall hall rfl), hblank,
    if_neg Bool.false_ne_true, hlist, readPart,
    Blank.trim_of_no_blank fun c hc => not_isBlank_of_isPlain (hall c hc), readTrimmed]
  cases Numeral.readWord? cs <;> rfl

theorem ofText_of_variant {a : Flags v} {cs : List Char}
    (h : Numeral.Variant (Numeral.write 16 a.bits) cs) :
    ofText ("0x" ++ String.ofList cs) = .ok a := by
  rw [ofText_numeral (isPlain_of_variant h), Numeral.readWord?_eq_some_iff.mpr h]
  rfl

theorem ofText_of_too_large {n : Nat} {cs : List Char} (hn : 0x100000000 ≤ n)
    (h : Numeral.Variant (Nat.toDigits 16 n) cs) :
    (ofText ("0x" ++ String.ofList cs) : Except TextError (Flags v)) = .error .invalidHex := by
  rw [ofText_numeral (isPlain_of_variant h), Numeral.readWord?_eq_none hn h]
  rfl

/-- Every set has one hexadecimal, one octal and one binary form, the canonical numeral of its word.
Behind `0x` it is read from every variant of its hexadecimal one; the numeral of a number that no
word has is refused, however it is spelled. -/
theorem numerals_canonical_and_exact (v : Vocab) :
    (∀ a : Flags v,
      a.hex.toList = '0' :: 'x' :: Numeral.write 16 a.bits ∧
      Numeral.Canonical 16 (Numeral.write 16 a.bits) a.bits.toNat ∧
      Numeral.Canonical 8 a.octal.toList a.bits.toNat ∧
      Numeral.Canonical 2 a.binary.toList a.bits.toNat) ∧
    (Function.Injective (hex : Flags v → String) ∧
      Function.Injective (octal : Flags v → String) ∧
      Function.Injective (binary : Flags v → String)) ∧
    (∀ (a : Flags v) (cs : List Char),
      (Numeral.readWord? cs = some a.bits ↔ Numeral.Variant (Numeral.write 16 a.bits) cs) ∧
      (Numeral.Variant (Numeral.write 16 a.bits) cs →
        ofText ("0x" ++ String.ofList cs) = .ok a ∧
        ofJson (.str ("0x" ++ String.ofList cs)) = .ok a)) ∧
    (∀ (n : Nat) (cs : List Char), 0x100000000 ≤ n → Numeral.Variant (Nat.toDigits 16 n) cs →
      (ofText ("0x" ++ String.ofList cs) : Except TextError (Flags v)) = .error .invalidHex ∧
      (ofJson (.str ("0x" ++ String.ofList cs)) : Except Json.ReadError (Flags v)) =
        .error (.badText .invalidHex)) := by
  refine ⟨?_, ⟨hex_injective, ?_, ?_⟩, ?_, ?_⟩
  · intro a
    exact ⟨toList_hex a, Numeral.canonical_write (by omega) a.bits,
      canonical_written (by omega) a, canonical_written (by omega) a⟩
  · exact written_injective (by omega) (by omega)
  · exact written_injective (by omega) (by omega)
  · intro a cs
    refine ⟨Numeral.readWord?_eq_some_iff, fun h => ⟨ofText_of_variant h, ?_⟩⟩
    rw [ofJson_str, ofText_of_variant h]
    rfl
  · intro n cs hn h
    refine ⟨ofText_of_too_large hn h, ?_⟩
    rw [ofJson_str, ofText_of_too_large hn h]
    rfl

/-- A word with a sign, zeros and letters of both cases, and the number five past the last word. -/
theorem numerals_canonical_and_exact_past_word :
    let a : TypeFlags := ⟨0xab0f⟩
    let cs := ['+', '0', '0', 'A', 'b', '0', 'F']
    let ds := ['0', '1', '0', '0', '0', '0', '0', '0', '0', '4']
    Numeral.Variant (Numeral.write 16 a.bits) cs ∧
    ofText ("0x" ++ String.ofList cs) = .ok a ∧
    0x100000000 ≤ 0x100000004 ∧ Numeral.Variant (Nat.toDigits 16 0x100000004) ds ∧
    (ofText ("0x" ++ String.ofList ds) : Except TextError TypeFlags) = .error .invalidHex := by
  intro a cs ds
  have hcs : Numeral.Variant (Numeral.write 16 a.bits) cs :=
    Numeral.readWord?_eq_some_iff.mp (by decide)
  have hds : Numeral.Variant (Nat.toDigits 16 0x100000004) ds := by
    have hdigits : Nat.toDigits 16 0x100000004 = ds.tail := by decide
    rw [hdigits]
    exact .bare (.zeros 1 (List.forall₂_same.mpr fun c _ => .inl rfl))
  obtain ⟨_, _, hread, hrefused⟩ := numerals_canonical_and_exact .type
  exact ⟨hcs, ((hread a cs).2 hcs).1, by decide, hds, (hrefused _ ds (by decide) hds).1⟩

end Flags
end CheckerTags
