import CheckerTags.Proofs.Pieces
import CheckerTags.Proofs.TextJoin
import CheckerTags.Proofs.TextRoundTrip

/-!
# CheckerTags.Proofs.ForeignText

A text that was written for one vocabulary and is read for another. No two vocabularies share a
name, and a set with named bits is written with a name in front, which is then the error. A set
without named bits is written as a numeral, or as nothing, and means the same bits everywhere.

* `Vocab.names_apart`: a name belongs to one vocabulary.
* `Flags.ofText_foreign_of_named`, `Flags.ofText_foreign_of_unnamed`: the two cases.
-/

namespace CheckerTags

theorem Vocab.names_apart {v w : Vocab} (h : v ≠ w) :
    ∀ c ∈ v.constants, ∀ d ∈ w.constants, d.name ≠ c.name := by
  have hnames : ∀ name ∈ v.constants.map Constant.name, name ∉ w.constants.map Constant.name := by
    cases v <;> cases w
    case modifier.modifier | type.type | object.object => exact absurd rfl h
    all_goals decide
  intro c hc d hd heq
  exact hnames c.name (List.mem_map_of_mem hc) (heq ▸ List.mem_map_of_mem hd)

namespace Flags

open Blank (isBlankText)

variable {v w : Vocab}

/-! ## Names of another vocabulary -/

theorem isBlankText_name {c : Constant v} (hc : c ∈ v.constants) : isBlankText c.name = false := by
  obtain ⟨hne, hchars⟩ := v.spelled hc
  obtain ⟨x, hx⟩ := List.exists_mem_of_ne_nil _ hne
  rw [Bool.eq_false_iff]
  intro hblank
  have := Blank.isBlankText_iff.mp hblank x hx
  rw [Vocab.not_isBlank_of_isNameChar (hchars x hx)] at this
  cases this

theorem ofText_foreign_name (h : v ≠ w) {c : Constant v} (hc : c ∈ v.constants) :
    (ofText c.name : Except TextError (Flags w)) = .error .unknownName := by
  obtain ⟨hne, hchars⟩ := v.spelled hc
  have hterm : Term c.name.toList c.flags := .name hc
  have hnone : (ofName? c.name : Option (Flags w)) = none :=
    ofName?_eq_none.mpr (Vocab.names_apart h c hc)
  rw [ofText_of_bar_not_mem hterm.bar_not_mem, isBlankText_name hc, if_neg Bool.false_ne_true,
    readPart, Blank.trim_of_no_blank hterm.not_isBlank, readTrimmed_name hne hchars, hnone]
  rfl

theorem ofText_intercalate_of_error {p : String} {e : TextError} (hp : isBlankText p = false)
    (hread : (ofText p : Except TextError (Flags v)) = .error e) (ps : List String) :
    (ofText (" | ".intercalate (p :: ps)) : Except TextError (Flags v)) = .error e := by
  cases ps with
  | nil => rwa [String.intercalate_singleton]
  | cons q ps =>
    have hregroup : " | ".intercalate (p :: q :: ps) =
        (p ++ " ") ++ "|" ++ (" " ++ " | ".intercalate (q :: ps)) := by
      have hsep : " | " = " " ++ "|" ++ " " := rfl
      rw [String.intercalate_cons_cons, hsep]
      simp only [String.append_assoc]
    have hpadded : Padded p (p ++ " ") := ⟨"", " ", rfl, rfl, by rw [String.empty_append]⟩
    have hbeside : (readBeside (p ++ " ") : Except TextError (Flags v)) = .error e := by
      rw [(alike_of_padded hpadded).readBeside_eq, readBeside, hp, if_neg Bool.false_ne_true, hread]
    rw [hregroup, ofText_bar, hbeside]
    rfl

/-! ## Sets with and without named bits -/

theorem ofText_foreign_of_named (h : v ≠ w) {a : Flags v} (ha : a.named ≠ []) :
    (ofText a.text : Except TextError (Flags w)) = .error .unknownName := by
  obtain ⟨c, cs, hnamed⟩ := List.exists_cons_of_ne_nil ha
  have hc : c ∈ v.constants := mem_constants_of_mem_named (by rw [hnamed]; exact List.mem_cons_self)
  obtain ⟨ws, hwords⟩ : ∃ ws, a.words = c.name :: ws := ⟨_, by rw [words, names, hnamed]; rfl⟩
  rw [text, hwords]
  exact ofText_intercalate_of_error (isBlankText_name hc) (ofText_foreign_name h hc) ws

/-- A numeral does not tell which vocabulary it was written for. -/
theorem ofText_foreign_of_unnamed {a : Flags v} (ha : a.named = []) :
    ofText a.text = .ok (⟨a.bits⟩ : Flags w) := by
  have hremaining : a.remaining = a := by
    have hparts := unionAll_parts a
    rwa [ha, List.map_nil, List.nil_append, unionAll_singleton] at hparts
  rw [text, words, names, ha, hremaining, List.map_nil, List.nil_append]
  by_cases hempty : a = ∅
  · rw [hempty]
    rfl
  · rw [if_neg (by simpa using hempty), String.intercalate_singleton]
    exact ofText_eq_ok.mpr (term_hex (⟨a.bits⟩ : Flags w)).spells

theorem ofText_foreign_eq_ok (h : v ≠ w) {a : Flags v} {b : Flags w} :
    ofText a.text = .ok b ↔
      (∀ c ∈ v.constants, a.intersects c.flags = false) ∧ b.bits = a.bits := by
  rw [← named_eq_nil]
  by_cases hnamed : a.named = []
  · rw [ofText_foreign_of_unnamed hnamed, Except.ok.injEq, eq_comm, Flags.ext_iff]
    exact (and_iff_right hnamed).symm
  · rw [ofText_foreign_of_named h hnamed]
    simp [hnamed]

theorem ofText_foreign_eq_error (h : v ≠ w) {a : Flags v} {e : TextError} :
    (ofText a.text : Except TextError (Flags w)) = .error e ↔
      (∃ c ∈ v.constants, a.intersects c.flags = true) ∧ e = .unknownName := by
  have hmeets : (∃ c ∈ v.constants, a.intersects c.flags = true) ↔ a.named ≠ [] := by
    rw [Ne, named_eq_nil]
    simp
  rw [hmeets]
  by_cases hnamed : a.named = []
  · rw [ofText_foreign_of_unnamed hnamed]
    simp [hnamed]
  · rw [ofText_foreign_of_named h hnamed, Except.error.injEq, eq_comm]
    exact (and_iff_right hnamed).symm

/-- A text that is written for one vocabulary and read for another gives the same bits if no
constant of the first has one of them, and is refused for an unknown name otherwise. -/
theorem foreign_text_same_bits_or_refused (h : v ≠ w) (a : Flags v) :
    (∀ b : Flags w, ofText a.text = .ok b ↔
      (∀ c ∈ v.constants, a.intersects c.flags = false) ∧ b.bits = a.bits) ∧
    (∀ e, (ofText a.text : Except TextError (Flags w)) = .error e ↔
      (∃ c ∈ v.constants, a.intersects c.flags = true) ∧ e = .unknownName) ∧
    (ofJson a.toJson : Except Json.ReadError (Flags w)) = (ofText a.text).mapError .badText ∧
    (Json.ReadError.badText .unknownName).message = "unrecognized named flag" := by
  refine ⟨?_, ?_, ofJson_str a.text, rfl⟩
  · intro b
    exact ofText_foreign_eq_ok h
  · intro e
    exact ofText_foreign_eq_error h

/-- Bit 15 has no name as an object flag. As a type flag it has one, and the numeral is read as that
flag; a name in front of it is not. -/
theorem foreign_text_same_bits_or_refused_undefined :
    Vocab.object ≠ Vocab.type ∧
    ofText (⟨0x8000⟩ : ObjectFlags).text = .ok TypeFlags.undefined ∧
    (ofText (⟨0x8080⟩ : ObjectFlags).text : Except TextError TypeFlags) = .error .unknownName := by
  have h : Vocab.object ≠ Vocab.type := by decide
  obtain ⟨hok, _⟩ := foreign_text_same_bits_or_refused h ⟨0x8000⟩
  obtain ⟨_, herror, _⟩ := foreign_text_same_bits_or_refused h ⟨0x8080⟩
  exact ⟨h, (hok _).mpr ⟨by decide, rfl⟩, (herror _).mpr ⟨by decide, rfl⟩⟩

end Flags
end CheckerTags
