import CheckerTags.Flags.Step
import CheckerTags.Proofs.Numerals
import CheckerTags.Proofs.Padding
import CheckerTags.Proofs.Spelling
import CheckerTags.Proofs.Traversal

/-!
# CheckerTags.Proofs.TextGrammar

The texts of a set of flags, as a grammar (`Flags.Spells`): blanks alone, or parts with `|`
between them, each a name or a numeral with white space around it. The value is the union of the
parts. The grammar knows nothing of splitting, trimming or looking up.

* `Flags.ofText_eq_ok`: the reader takes the texts of the grammar, with their values, and no
  others.
-/

namespace CheckerTags
namespace Flags

open Blank (isBlank trim)

variable {v : Vocab}

/-- A part without the white space around it. -/
inductive Term : List Char → Flags v → Prop where
  | name {c : Constant v} : c ∈ v.constants → Term c.name.toList c.flags
  | numeral {cs : List Char} {word : BitVec 32} :
      Numeral.DenotesWord cs word → Term ('0' :: 'x' :: cs) ⟨word⟩

inductive Part : List Char → Flags v → Prop where
  | padded {before t after : List Char} {a : Flags v} :
      (∀ c ∈ before, isBlank c = true) → Term t a → (∀ c ∈ after, isBlank c = true) →
      Part (before ++ t ++ after) a

/-- The texts of a set of flags. -/
inductive Spells : List Char → Flags v → Prop where
  | blank {cs : List Char} : (∀ c ∈ cs, isBlank c = true) → Spells cs ∅
  | parts {ps : List (List Char)} {items : List (Flags v)} :
      ps ≠ [] → (∀ p ∈ ps, '|' ∉ p) → List.Forall₂ Part ps items →
      Spells (['|'].intercalate ps) (unionAll items)

/-! ## Terms -/

/-- What no term contains. -/
def isPlain (c : Char) : Bool := !isBlank c && c != '|'

theorem not_isBlank_of_isPlain {c : Char} (h : isPlain c = true) : isBlank c = false := by
  simp only [isPlain, Bool.and_eq_true, Bool.not_eq_true'] at h
  exact h.1

theorem isPlain_digitChar : ∀ d < 16,
    isPlain d.digitChar = true ∧ isPlain d.digitChar.toUpper = true := by
  decide

theorem isPlain_of_denotes {cs : List Char} {n : Nat} (h : Numeral.Denotes 16 cs n) :
    ∀ c ∈ cs, isPlain c = true := by
  intro c hc
  obtain ⟨d, hd, rfl | rfl⟩ := h.isDigit_of_mem c hc
  · exact (isPlain_digitChar d hd).1
  · exact (isPlain_digitChar d hd).2

theorem isPlain_of_isNameChar {c : Char} (h : Vocab.isNameChar c = true) :
    isPlain c = true := by
  have hbar : c ≠ '|' := by
    rintro rfl
    cases h
  simp [isPlain, Vocab.not_isBlank_of_isNameChar h, hbar]

namespace Term

theorem ne_nil {t : List Char} {a : Flags v} (h : Term t a) : t ≠ [] := by
  cases h with
  | name hc => exact (v.spelled hc).1
  | numeral _ => simp

theorem isPlain {t : List Char} {a : Flags v} (h : Term t a) :
    ∀ c ∈ t, Flags.isPlain c = true := by
  cases h with
  | name hc => exact fun c h => isPlain_of_isNameChar ((v.spelled hc).2 c h)
  | @numeral cs word hw =>
    have hcs : ∀ c ∈ cs, Flags.isPlain c = true := by
      cases hw with
      | bare hd _ => exact isPlain_of_denotes hd
      | plus hd _ => exact List.forall_mem_cons.mpr ⟨by decide, isPlain_of_denotes hd⟩
    exact List.forall_mem_cons.mpr ⟨by decide, List.forall_mem_cons.mpr ⟨by decide, hcs⟩⟩

theorem not_isBlank {t : List Char} {a : Flags v} (h : Term t a) :
    ∀ c ∈ t, isBlank c = false :=
  fun c hc => not_isBlank_of_isPlain (h.isPlain c hc)

theorem bar_not_mem {t : List Char} {a : Flags v} (h : Term t a) : '|' ∉ t :=
  bar_not_mem_of_forall h.isPlain rfl

end Term

/-- A name is neither empty nor taken for a numeral, so it is looked up. -/
theorem readTrimmed_name {name : String} (hne : name.toList ≠ [])
    (hchars : ∀ x ∈ name.toList, Vocab.isNameChar x = true) :
    (readTrimmed name.toList : Except TextError (Flags v)) =
      (ofName? name).elim (.error .unknownName) .ok := by
  unfold readTrimmed
  split
  · rename_i hnil
    exact absurd hnil hne
  · rename_i numeral hcons
    have hzero := hchars '0' (by rw [hcons]; simp)
    cases hzero
  · rw [String.ofList_toList]
    cases (ofName? name : Option (Flags v)) <;> rfl

theorem readTrimmed_eq_ok {t : List Char} {a : Flags v} :
    readTrimmed t = .ok a ↔ Term t a := by
  constructor
  · intro h
    unfold readTrimmed at h
    split at h
    · cases h
    · split at h
      · rename_i hw
        cases h
        exact .numeral (Numeral.readWord?_eq_some.mp hw)
      · cases h
    · split at h
      · rename_i ha
        cases h
        obtain ⟨c, hc, hname, rfl⟩ := ofName?_eq_some.mp ha
        have ht : c.name.toList = t := by rw [hname, String.toList_ofList]
        exact ht ▸ .name hc
      · cases h
  · intro h
    cases h with
    | @name c hc =>
      obtain ⟨hne, hchars⟩ := v.spelled hc
      rw [readTrimmed_name hne hchars, ofName?_eq_some.mpr ⟨c, hc, rfl, rfl⟩]
      rfl
    | numeral hw => simp only [readTrimmed, Numeral.readWord?_eq_some.mpr hw]

/-! ## Parts -/

theorem Part.bar_not_mem {p : List Char} {a : Flags v} (h : Part p a) : '|' ∉ p := by
  cases h with
  | padded hb ht ha =>
    simp only [List.mem_append, not_or]
    exact ⟨⟨bar_not_mem_of_forall hb rfl, ht.bar_not_mem⟩, bar_not_mem_of_forall ha rfl⟩

theorem bar_not_mem_of_parts {ps : List (List Char)} {items : List (Flags v)}
    (h : List.Forall₂ Part ps items) : ∀ p ∈ ps, '|' ∉ p := by
  induction h with
  | nil => simp
  | cons hp _ ih => exact List.forall_mem_cons.mpr ⟨hp.bar_not_mem, ih⟩

theorem Part.exists_not_isBlank {p : List Char} {a : Flags v} (h : Part p a) :
    ∃ c ∈ p, isBlank c = false := by
  cases h with
  | @padded before t after _ hb ht ha =>
    obtain ⟨c, hc⟩ := List.exists_mem_of_ne_nil t ht.ne_nil
    exact ⟨c, by simp [hc], ht.not_isBlank c hc⟩

theorem readPart_eq_ok {p : List Char} {a : Flags v} : readPart p = .ok a ↔ Part p a := by
  constructor
  · intro h
    obtain ⟨before, after, hb, ha, hp⟩ := Blank.eq_padded_trim p
    have ht : Term (trim p) a := readTrimmed_eq_ok.mp h
    rw [hp]
    exact .padded hb ht ha
  · intro h
    cases h with
    | padded hb ht ha =>
      unfold readPart
      rw [Blank.trim_padded hb ha, Blank.trim_of_no_blank ht.not_isBlank]
      exact readTrimmed_eq_ok.mpr ht

theorem readParts_eq_mapM (ps : List (List Char)) :
    (readParts ps : Except TextError (Flags v)) = (ps.mapM readPart).map unionAll := by
  induction ps with
  | nil => rfl
  | cons p ps ih =>
    rw [readParts, ih]
    cases hp : (readPart p : Except TextError (Flags v)) with
    | error e =>
      rw [Traversal.mapM_cons_of_error hp]
      rfl
    | ok a =>
      rw [Traversal.mapM_cons_of_ok hp]
      cases (ps.mapM readPart : Except TextError (List (Flags v))) with
      | error e => rfl
      | ok items => exact congrArg Except.ok (unionAll_cons a items).symm

theorem readParts_eq_ok {ps : List (List Char)} {a : Flags v} :
    readParts ps = .ok a ↔ ∃ items, List.Forall₂ Part ps items ∧ a = unionAll items := by
  have hparts : ∀ items : List (Flags v),
      List.Forall₂ Part ps items ↔ ps.mapM readPart = .ok items := by
    intro items
    simp only [Traversal.mapM_eq_ok, readPart_eq_ok]
  simp only [readParts_eq_mapM, hparts]
  cases (ps.mapM readPart : Except TextError (List (Flags v))) with
  | error e => simp [Except.map]
  | ok items => simp [Except.map, eq_comm]

/-! ## Whole texts -/

theorem exists_not_isBlank_of_parts {ps : List (List Char)} {items : List (Flags v)}
    (hne : ps ≠ []) (h : List.Forall₂ Part ps items) :
    ∃ c ∈ ['|'].intercalate ps, isBlank c = false := by
  cases h with
  | nil => exact absurd rfl hne
  | @cons p _ ps _ hp _ =>
    obtain ⟨c, hc, hblank⟩ := hp.exists_not_isBlank
    refine ⟨c, ?_, hblank⟩
    cases ps with
    | nil => simpa using hc
    | cons p' ps =>
      rw [List.intercalate_cons_cons]
      simp [hc]

theorem ofText_eq_ok {s : String} {a : Flags v} : ofText s = .ok a ↔ Spells s.toList a := by
  constructor
  · intro h
    unfold ofText at h
    split at h
    · rename_i hblank
      cases h
      exact .blank (List.all_eq_true.mp hblank)
    · obtain ⟨items, hitems, rfl⟩ := readParts_eq_ok.mp h
      have := Spells.parts (List.splitOn_ne_nil '|' s.toList) (bar_not_mem_of_parts hitems) hitems
      rwa [List.intercalate_splitOn] at this
  · intro h
    unfold ofText
    generalize s.toList = cs at h
    cases h with
    | blank hblank => rw [if_pos (List.all_eq_true.mpr hblank)]
    | @parts ps items hne hbar hitems =>
      -- a part holds more than blanks, so this text is not taken for the empty set
      obtain ⟨c, hc, hcblank⟩ := exists_not_isBlank_of_parts hne hitems
      rw [if_neg, List.splitOn_intercalate '|' hbar hne]
      · exact readParts_eq_ok.mpr ⟨items, hitems, rfl⟩
      · intro hall
        rw [List.all_eq_true.mp hall c hc] at hcblank
        cases hcblank

theorem ofJson_eq_ok {value : Json} {a : Flags v} :
    ofJson value = .ok a ↔ ∃ s, value = .str s ∧ Spells s.toList a := by
  constructor
  · intro h
    unfold ofJson at h
    split at h
    · rename_i s
      split at h
      · rename_i ha
        cases h
        exact ⟨s, rfl, ofText_eq_ok.mp ha⟩
      · cases h
    · cases h
  · rintro ⟨s, rfl, h⟩
    simp only [ofJson, ofText_eq_ok.mpr h]

theorem ofJson_str (s : String) :
    (ofJson (.str s) : Except Json.ReadError (Flags v)) = (ofText s).mapError .badText := by
  rw [ofJson]
  cases (ofText s : Except TextError (Flags v)) <;> rfl

theorem ofJson_not_str (value : Json) :
    (∃ s, value = .str s) ∨
      (ofJson value : Except Json.ReadError (Flags v)) =
        .error (.invalidType value.shape .flagText) := by
  cases value with
  | str s => exact .inl ⟨s, rfl⟩
  | _ => exact .inr rfl

theorem exists_ofJson_error {value : Json} :
    (∃ e, (ofJson value : Except Json.ReadError (Flags v)) = .error e) ↔
      ∀ s, value = .str s → ∀ a : Flags v, ¬ Spells s.toList a := by
  constructor
  · rintro ⟨e, he⟩ s hvalue a ha
    rw [ofJson_eq_ok.mpr ⟨s, hvalue, ha⟩] at he
    cases he
  · intro hnone
    cases hread : (ofJson value : Except Json.ReadError (Flags v)) with
    | ok a =>
      obtain ⟨s, hvalue, ha⟩ := ofJson_eq_ok.mp hread
      exact absurd ha (hnone s hvalue a)
    | error e => exact ⟨e, rfl⟩

/-- A set of flags is read from the texts of the grammar with its value, from JSON strings with
such a text, and from nothing else. -/
theorem reader_accepts_grammar (v : Vocab) :
    (∀ (s : String) (a : Flags v), ofText s = .ok a ↔ Spells s.toList a) ∧
    (∀ (value : Json) (a : Flags v),
      ofJson value = .ok a ↔ ∃ s, value = .str s ∧ Spells s.toList a) ∧
    (∀ value : Json, (∃ s, value = .str s) ∨
      (ofJson value : Except Json.ReadError (Flags v)) =
        .error (.invalidType value.shape .flagText)) := by
  refine ⟨?_, ?_, ofJson_not_str⟩
  · intro s a
    exact ofText_eq_ok
  · intro value a
    exact ofJson_eq_ok

end Flags
end CheckerTags
