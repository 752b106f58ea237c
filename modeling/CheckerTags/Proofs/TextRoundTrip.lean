import CheckerTags.Proofs.NameWalk
import CheckerTags.Proofs.TextGrammar

/-!
# CheckerTags.Proofs.TextRoundTrip

The text form of a set is one of its texts (`Flags.spells_text`): its words are terms, one for
each piece of the set, and ` | ` between two words is the separator with one blank for either of
them. As the reader takes every text of a set, reading undoes writing.
-/

namespace CheckerTags
namespace Flags

variable {v : Vocab}

/-! ## Words -/

theorem toList_hex (a : Flags v) : a.hex.toList = '0' :: 'x' :: Nat.toDigits 16 a.bits.toNat := by
  simp [hex, Numeral.write]

theorem term_hex (a : Flags v) : Term a.hex.toList a := by
  have hd := Numeral.denotes_toDigits (by decide : 1 < 16) a.bits.toNat
  have hw := Numeral.DenotesWord.bare hd a.bits.isLt
  rw [BitVec.ofNat_toNat, BitVec.setWidth_eq] at hw
  rw [toList_hex]
  exact .numeral hw

theorem Term.part {t : List Char} {a : Flags v} (h : Term t a) : Part t a := by
  have hpadded : Part ([] ++ t ++ []) a := .padded (by simp) h (by simp)
  simpa using hpadded

theorem Term.spells {t : List Char} {a : Flags v} (h : Term t a) : Spells t a := by
  have hps : List.Forall₂ Part [t] [a] := .cons h.part .nil
  have := Spells.parts (by simp) (bar_not_mem_of_parts hps) hps
  simpa [unionAll_singleton] using this

end Flags
end CheckerTags
