import CheckerTags.Json.Kind
import CheckerTags.Kind.Parse
import CheckerTags.Proofs.KindBits
import CheckerTags.Proofs.Traversal

/-!
# CheckerTags.Proofs.Keywords

The language of keywords. There are two tables of spellings, `Kind.keyword` and the names of the
kinds in lower case, and three readers: lookup, parse with an error and a log, and JSON. No two kinds
are spelled alike and the tables agree (`Kind.jsonName_eq_keyword`), so every reader takes exactly
the keywords, each for its kind, and refuses every other text by naming it.

* `Kind.ofKeyword?_eq_some`, `Kind.parse_eq_ok`, `Kind.ofJson_str_eq_ok`: what is read.
* `Kind.parse_eq_error`, `Kind.ofJson_str_eq_error`: what is refused, and with which error.
* `Kind.parseAll_eq_error`: of several texts the first that is no keyword is the error.
* `Kind.parseEach_events`: the log of a sequence of texts.
-/

namespace CheckerTags
namespace Kind

open Json (ReadError)

/-! ## Spelling -/

theorem keyword_injective : Function.Injective keyword :=
  injective_of_nodup (by decide)

theorem jsonName_eq_keyword (k : Kind) : k.jsonName = k.keyword := by
  cases k <;> decide

/-! ## Lookup -/

/-- Whatever the order in which a complete list of kinds is searched, the search finds the one kind
that is spelled so. -/
theorem find?_keyword_eq_some {kinds : List Kind} (complete : ∀ k, k ∈ kinds) {s : String}
    {k : Kind} : (kinds.find? fun x => x.keyword == s) = some k ↔ s = k.keyword := by
  constructor
  · intro h
    have hk : k.keyword = s := by simpa using List.find?_some h
    exact hk.symm
  · rintro rfl
    cases h : kinds.find? fun x => x.keyword == k.keyword with
    | none => exact absurd (List.find?_eq_none.mp h k (complete k)) (by simp)
    | some x =>
      have hx : x.keyword = k.keyword := by simpa using List.find?_some h
      rw [keyword_injective hx]

theorem ofKeyword?_eq_some {s : String} {k : Kind} : ofKeyword? s = some k ↔ s = k.keyword :=
  find?_keyword_eq_some mem_all

/-- Of the rows of the table the last one may answer as well as the first. -/
theorem find?_reverse_eq_ofKeyword? (s : String) :
    (all.reverse.find? fun x => x.keyword == s) = ofKeyword? s := by
  ext k
  have complete : ∀ k, k ∈ all.reverse := fun k => List.mem_reverse.mpr (mem_all k)
  rw [find?_keyword_eq_some complete, ofKeyword?_eq_some]

theorem ofKeyword?_eq_none {s : String} : ofKeyword? s = none ↔ ∀ k : Kind, s ≠ k.keyword := by
  rw [Option.eq_none_iff_forall_ne_some]
  exact forall_congr' fun k => not_congr ofKeyword?_eq_some

theorem ofJsonName?_eq_ofKeyword? (s : String) : ofJsonName? s = ofKeyword? s := by
  simp only [ofJsonName?, ofKeyword?, jsonName_eq_keyword]

/-! ## Readers with an error -/

theorem parse_eq_ok {s : String} {k : Kind} : parse s = .ok k ↔ s = k.keyword := by
  rw [← ofKeyword?_eq_some, parse]
  cases ofKeyword? s <;> simp

theorem parse_eq_error {s : String} {e : UnknownKeyword} :
    parse s = .error e ↔ (∀ k : Kind, s ≠ k.keyword) ∧ e = ⟨s⟩ := by
  rw [← ofKeyword?_eq_none, parse]
  cases ofKeyword? s <;> simp [eq_comm]

theorem ofJson_str_eq_ok {s : String} {k : Kind} : ofJson (.str s) = .ok k ↔ s = k.keyword := by
  rw [← ofKeyword?_eq_some, ofJson, ofVariant, ofJsonName?_eq_ofKeyword?]
  cases ofKeyword? s <;> simp

theorem ofJson_str_eq_error {s : String} {e : ReadError} :
    ofJson (.str s) = .error e ↔ (∀ k : Kind, s ≠ k.keyword) ∧ e = .unknownVariant s := by
  rw [← ofKeyword?_eq_none, ofJson, ofVariant, ofJsonName?_eq_ofKeyword?]
  cases ofKeyword? s <;> simp [eq_comm]

theorem toJson_eq_str {s : String} {k : Kind} : k.toJson = .str s ↔ s = k.keyword := by
  rw [toJson, jsonName_eq_keyword, Json.str.injEq, eq_comm]

/-! ## Several texts -/

/-- `s` is the first text of a list that is no keyword. -/
def FirstUnknown (ss : List String) (s : String) : Prop :=
  ∃ before after, ss = before ++ s :: after ∧ (∀ x ∈ before, ∃ k : Kind, x = k.keyword) ∧
    ∀ k : Kind, s ≠ k.keyword

theorem firstRefused_parse {ss : List String} {e : UnknownKeyword} :
    Traversal.FirstRefused parse ss e ↔ FirstUnknown ss e.keyword := by
  simp only [Traversal.FirstRefused, parse_eq_ok, parse_eq_error]
  constructor
  · rintro ⟨before, s, after, hss, hbefore, hs, rfl⟩
    exact ⟨before, after, hss, hbefore, hs⟩
  · rintro ⟨before, after, hss, hbefore, hs⟩
    exact ⟨before, e.keyword, after, hss, hbefore, hs, rfl⟩

theorem exists_firstUnknown {ss : List String} :
    (∃ s, FirstUnknown ss s) ↔ ∃ s ∈ ss, ∀ k : Kind, s ≠ k.keyword := by
  calc (∃ s, FirstUnknown ss s)
    _ ↔ ∃ e, Traversal.FirstRefused parse ss e := by
      simp only [firstRefused_parse]
      constructor
      · rintro ⟨s, hs⟩
        exact ⟨⟨s⟩, hs⟩
      · rintro ⟨e, he⟩
        exact ⟨e.keyword, he⟩
    _ ↔ ∃ s ∈ ss, ∃ e, parse s = .error e := Traversal.exists_firstRefused
    _ ↔ ∃ s ∈ ss, ∀ k : Kind, s ≠ k.keyword := by simp [parse_eq_error]

theorem parseAll_eq_mapM (ss : List String) : parseAll ss = ss.mapM parse := by
  induction ss with
  | nil => rfl
  | cons s ss ih =>
    rw [parseAll, ih]
    cases hs : parse s with
    | error e => exact (Traversal.mapM_cons_of_error hs ss).symm
    | ok k =>
      rw [Traversal.mapM_cons_of_ok hs]
      cases ss.mapM parse <;> rfl

theorem parseAll_map_keyword (ks : List Kind) : parseAll (ks.map keyword) = .ok ks := by
  rw [parseAll_eq_mapM, Traversal.mapM_eq_ok, List.forall₂_map_left_iff, List.forall₂_same]
  intro k _
  exact parse_eq_ok.mpr rfl

theorem parseAll_eq_error {ss : List String} {e : UnknownKeyword} :
    parseAll ss = .error e ↔ FirstUnknown ss e.keyword := by
  rw [parseAll_eq_mapM, Traversal.mapM_eq_error, firstRefused_parse]

/-! ## The log -/

theorem parseLogged_outcome (s : String) : (parseLogged s).1 = parse s := by
  unfold parseLogged
  cases parse s <;> rfl

theorem parseLogged_events (s : String) :
    (parseLogged s).2 = if (parse s).isOk then [] else [.rejected s] := by
  unfold parseLogged
  cases h : parse s with
  | ok k => rfl
  | error e => rw [(parse_eq_error.mp h).2]; rfl

theorem parseEach_outcomes (ss : List String) : (parseEach ss).1 = ss.map parse := by
  induction ss with
  | nil => rfl
  | cons s ss ih => rw [List.map_cons, ← ih, ← parseLogged_outcome]; rfl

theorem parseEach_events (ss : List String) :
    (parseEach ss).2 = (ss.filter fun s => !(parse s).isOk).map .rejected := by
  induction ss with
  | nil => rfl
  | cons s ss ih =>
    have hcons : (parseEach (s :: ss)).2 = (parseLogged s).2 ++ (parseEach ss).2 := rfl
    rw [hcons, parseLogged_events, ih]
    by_cases h : (parse s).isOk = true <;> simp [h]

example : (parseEach ["in", "In", "out", "in "]).2 = [.rejected "In", .rejected "in "] := by
  decide

/-- All readers take the same texts for the same kinds, and these are the texts that kinds are
written as. Any other text is refused by its name, and the log has it once. -/
theorem readers_agree :
    (∀ (s : String) (k : Kind),
      (ofKeyword? s = some k ↔ s = k.keyword) ∧
      ((all.reverse.find? fun x => x.keyword == s) = some k ↔ s = k.keyword) ∧
      (parse s = .ok k ↔ s = k.keyword) ∧
      (ofJson (.str s) = .ok k ↔ s = k.keyword) ∧
      (toString k = s ↔ s = k.keyword) ∧
      (k.toJson = .str s ↔ s = k.keyword)) ∧
    (∀ s : String,
      (ofKeyword? s = none ↔ ∀ k : Kind, s ≠ k.keyword) ∧
      (∀ e, parse s = .error e ↔ (∀ k : Kind, s ≠ k.keyword) ∧
        e.keyword = s ∧ e.message = "unknown modifier keyword: " ++ s) ∧
      (∀ e, ofJson (.str s) = .error e ↔ (∀ k : Kind, s ≠ k.keyword) ∧
        e = .unknownVariant s ∧
        e.message = "unknown variant `" ++ s ++ "`, expected one of " ++ ReadError.variants)) ∧
    (∀ ss : List String, (parseEach ss).1 = ss.map parse ∧
      (parseEach ss).2 = (ss.filter fun s => !(parse s).isOk).map .rejected) ∧
    (∀ s : String, (parseLogged s).2 = [] ↔ ∃ k, parse s = .ok k) := by
  refine ⟨?_, ?_, ?_, ?_⟩
  · intro s k
    refine ⟨ofKeyword?_eq_some, ?_, parse_eq_ok, ofJson_str_eq_ok, eq_comm, toJson_eq_str⟩
    rw [find?_reverse_eq_ofKeyword?, ofKeyword?_eq_some]
  · intro s
    refine ⟨ofKeyword?_eq_none, ?_, ?_⟩
    · rintro ⟨keyword⟩
      rw [parse_eq_error]
      refine and_congr_right fun _ => ?_
      constructor
      · rintro ⟨⟩
        exact ⟨rfl, rfl⟩
      · rintro ⟨rfl, -⟩
        rfl
    · intro e
      rw [ofJson_str_eq_error]
      refine and_congr_right fun _ => ?_
      constructor
      · rintro rfl
        exact ⟨rfl, rfl⟩
      · exact And.left
  · intro ss
    exact ⟨parseEach_outcomes ss, parseEach_events ss⟩
  · intro s
    rw [parseLogged_events]
    cases parse s <;> simp [Except.isOk, Except.toBool]

end Kind
end CheckerTags
