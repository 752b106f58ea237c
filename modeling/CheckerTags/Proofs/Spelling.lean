import CheckerTags.Proofs.Padding
import CheckerTags.Vocab.Constants
import Mathlib.Data.List.Nodup

/-!
# CheckerTags.Proofs.Spelling

How constants are spelled. In every vocabulary a name is in capitals and underscores, and no two
constants share one. So a name cannot be taken for a numeral, blanks or a separator cannot be
part of it, and a lookup finds each constant under its own name (`Flags.ofName?_eq_some`).
-/

namespace CheckerTags

theorem Constant.find?_eq_some {v : Vocab} {table : List (Constant v)}
    (distinct : (table.map Constant.name).Nodup) {name : String} {a : Flags v} :
    find? table name = some a ↔ ∃ c ∈ table, c.name = name ∧ c.flags = a := by
  unfold find?
  rw [Option.map_eq_some_iff]
  constructor
  · rintro ⟨c, hc, rfl⟩
    exact ⟨c, List.mem_of_find?_eq_some hc, by simpa using List.find?_some hc, rfl⟩
  · rintro ⟨c, hc, rfl, rfl⟩
    cases h : table.find? (fun x => x.name == c.name) with
    | none => exact absurd (List.find?_eq_none.mp h c hc) (by simp)
    | some x =>
      have hx : x.name = c.name := by simpa using List.find?_some h
      exact ⟨x, rfl, congrArg flags
        (List.inj_on_of_nodup_map distinct (List.mem_of_find?_eq_some h) hc hx)⟩

namespace Vocab

/-- The characters of names. -/
def isNameChar (c : Char) : Bool := ('A' ≤ c && c ≤ 'Z') || c == '_'

theorem toNat_of_isNameChar {c : Char} (h : isNameChar c = true) :
    (65 ≤ c.toNat ∧ c.toNat ≤ 90) ∨ c.toNat = 95 := by
  simp only [isNameChar, Bool.or_eq_true, Bool.and_eq_true, decide_eq_true_eq, beq_iff_eq] at h
  rcases h with h | rfl
  · exact .inl h
  · exact .inr rfl

theorem not_isBlank_of_isNameChar {c : Char} (h : isNameChar c = true) :
    Blank.isBlank c = false := by
  have := toNat_of_isNameChar h
  simp only [Blank.isBlank, Blank.ranges, List.any_cons, List.any_nil, Bool.or_false,
    Bool.or_eq_false_iff, Bool.and_eq_false_iff, decide_eq_false_iff_not]
  omega

def isName (name : String) : Bool := !name.toList.isEmpty && name.toList.all isNameChar

theorem names_all_isName (v : Vocab) : (v.constants.map Constant.name).all isName = true := by
  cases v <;> decide +kernel

theorem spelled (v : Vocab) {c : Constant v} (hc : c ∈ v.constants) :
    c.name.toList ≠ [] ∧ ∀ x ∈ c.name.toList, isNameChar x = true := by
  have h := List.all_eq_true.mp v.names_all_isName c.name (List.mem_map_of_mem hc)
  simpa [isName] using h

theorem names_nodup (v : Vocab) : (v.constants.map Constant.name).Nodup := by
  cases v <;> decide

end Vocab

theorem Flags.ofName?_eq_some {v : Vocab} {name : String} {a : Flags v} :
    ofName? name = some a ↔ ∃ c ∈ v.constants, c.name = name ∧ c.flags = a :=
  Constant.find?_eq_some v.names_nodup

theorem Flags.ofName?_eq_none {v : Vocab} {name : String} :
    (ofName? name : Option (Flags v)) = none ↔ ∀ c ∈ v.constants, c.name ≠ name := by
  rw [ofName?, Constant.find?, Option.map_eq_none_iff, List.find?_eq_none]
  simp

end CheckerTags
