import CheckerTags.Proofs.Keywords

/-!
# CheckerTags.Proofs.KindJson

The JSON values of kinds. A kind is spelled by its keyword and by an object that has the keyword as
its only key and `null` below it. Every other value is refused (`Kind.Refused`), and what is looked
at first is the error: of an object the number of its entries, then the key, then what stands below
the key.

* `Kind.spelled_or_refused`: no value is left out.
* `Kind.ofJson_eq_ok`, `Kind.ofJson_eq_error`: the reader goes by this.
* `Json.describe_shape`: what a message tells of a value begins with the value's type.
-/

namespace CheckerTags

/-! ## The type of a value -/

/-- The type of a value, as messages call it. -/
def Json.typeName : Json → String
  | .null => "null"
  | .bool _ => "boolean"
  | .int _ => "integer"
  | .float _ => "floating point"
  | .str _ => "string"
  | .arr _ => "sequence"
  | .obj _ => "map"

theorem Json.describe_shape (value : Json) :
    ∃ detail, value.shape.describe = value.typeName ++ detail := by
  have regroup : ∀ type mark x close : String,
      type ++ mark ++ x ++ close = type ++ (mark ++ x ++ close) := by
    intro type mark x close
    simp only [String.append_assoc]
  cases value with
  | null => exact ⟨"", rfl⟩
  | bool b => exact ⟨_, regroup "boolean" " `" (toString b) "`"⟩
  | int n => exact ⟨_, regroup "integer" " `" (toString n) "`"⟩
  | float x => exact ⟨_, regroup "floating point" " `" (Decimal.text x) "`"⟩
  | str s => exact ⟨_, @String.append_assoc "string" " " (Quoted.quote s)⟩
  | arr items => exact ⟨"", rfl⟩
  | obj entries => exact ⟨"", rfl⟩

namespace Kind

open Json (ReadError)

/-- Values that spell no kind, each with its error. -/
inductive Refused : Json → ReadError → Prop where
  | word {s : String} : (∀ k : Kind, s ≠ k.keyword) → Refused (.str s) (.unknownVariant s)
  | entryCount {entries : List (String × Json)} :
      entries.length ≠ 1 → Refused (.obj entries) .notSingleEntry
  | key {s : String} {value : Json} :
      (∀ k : Kind, s ≠ k.keyword) → Refused (.obj [(s, value)]) (.unknownVariant s)
  | below {k : Kind} {value : Json} :
      value ≠ .null → Refused (.obj [(k.keyword, value)]) (.invalidType value.shape .unit)
  | other {value : Json} : (∀ s, value ≠ .str s) → (∀ entries, value ≠ .obj entries) →
      Refused value (.invalidType value.shape .stringOrMap)

theorem spelled_or_refused (value : Json) :
    (∃ k : Kind, value = .str k.keyword ∨ value = .obj [(k.keyword, .null)]) ∨
      ∃ e, Refused value e := by
  cases value with
  | str s =>
    by_cases hs : ∃ k : Kind, s = k.keyword
    · obtain ⟨k, rfl⟩ := hs
      exact .inl ⟨k, .inl rfl⟩
    · exact .inr ⟨_, .word (not_exists.mp hs)⟩
  | obj entries =>
    by_cases hlen : entries.length = 1
    · obtain ⟨⟨s, value⟩, rfl⟩ := List.length_eq_one_iff.mp hlen
      by_cases hs : ∃ k : Kind, s = k.keyword
      · obtain ⟨k, rfl⟩ := hs
        by_cases hv : value = .null
        · subst hv
          exact .inl ⟨k, .inr rfl⟩
        · exact .inr ⟨_, .below hv⟩
      · exact .inr ⟨_, .key (not_exists.mp hs)⟩
    · exact .inr ⟨_, .entryCount hlen⟩
  | _ => exact .inr ⟨_, .other (by simp) (by simp)⟩

/-! ## The reader -/

theorem ofVariant_keyword (k : Kind) : ofVariant k.keyword = .ok k := ofJson_str_eq_ok.mpr rfl

theorem ofVariant_of_ne {s : String} (hs : ∀ k : Kind, s ≠ k.keyword) :
    ofVariant s = .error (.unknownVariant s) :=
  ofJson_str_eq_error.mpr ⟨hs, rfl⟩

theorem ofJson_entry_null (s : String) : ofJson (.obj [(s, .null)]) = ofJson (.str s) := by
  simp only [ofJson]
  cases ofVariant s <;> rfl

theorem ofJson_of_spelled {value : Json} {k : Kind}
    (h : value = .str k.keyword ∨ value = .obj [(k.keyword, .null)]) : ofJson value = .ok k := by
  rcases h with rfl | rfl
  · exact ofVariant_keyword k
  · rw [ofJson_entry_null]
    exact ofVariant_keyword k

theorem ofJson_of_refused {value : Json} {e : ReadError} (h : Refused value e) :
    ofJson value = .error e := by
  cases h with
  | word hs => exact ofVariant_of_ne hs
  | @entryCount entries hlen =>
    match entries, hlen with
    | [], _ => rfl
    | [_], hlen => exact absurd rfl hlen
    | _ :: _ :: _, _ => rfl
  | key hs => simp only [ofJson, ofVariant_of_ne hs]
  | @below k value hv =>
    cases value with
    | null => exact absurd rfl hv
    | _ => simp only [ofJson, ofVariant_keyword]
  | other hstr hobj =>
    cases value with
    | str s => exact absurd rfl (hstr s)
    | obj entries => exact absurd rfl (hobj entries)
    | _ => rfl

theorem ofJson_eq_ok {value : Json} {k : Kind} :
    ofJson value = .ok k ↔ value = .str k.keyword ∨ value = .obj [(k.keyword, .null)] := by
  refine ⟨fun h => ?_, ofJson_of_spelled⟩
  rcases spelled_or_refused value with ⟨k', hk'⟩ | ⟨e, he⟩
  · rw [ofJson_of_spelled hk'] at h
    cases h
    exact hk'
  · rw [ofJson_of_refused he] at h
    cases h

theorem ofJson_eq_error {value : Json} {e : ReadError} :
    ofJson value = .error e ↔ Refused value e := by
  refine ⟨fun h => ?_, ofJson_of_refused⟩
  rcases spelled_or_refused value with ⟨k, hk⟩ | ⟨e', he'⟩
  · rw [ofJson_of_spelled hk] at h
    cases h
  · rw [ofJson_of_refused he'] at h
    cases h
    exact he'

/-- A kind is read from its two spellings and from nothing else, and is read back as it is written.
Any other value is refused with the error of what is wrong with it first. -/
theorem two_spellings_else_first_error :
    (∀ (value : Json) (k : Kind), ofJson value = .ok k ↔
      value = .str k.keyword ∨ value = .obj [(k.keyword, .null)]) ∧
    (∀ (value : Json) (e : ReadError), ofJson value = .error e ↔ Refused value e) ∧
    (∀ (value : Json) (expected : Json.Expected), ∃ detail,
      (ReadError.invalidType value.shape expected).message =
        "invalid type: " ++ (value.typeName ++ detail) ++ ", expected " ++ expected.describe) ∧
    (∀ s : String, ofJson (.str s) = ofJson (.obj [(s, .null)])) ∧
    (∀ k : Kind, ofJson k.toJson = .ok k) := by
  refine ⟨?_, ?_, ?_, ?_, ?_⟩
  · intro value k
    exact ofJson_eq_ok
  · intro value e
    exact ofJson_eq_error
  · intro value expected
    obtain ⟨detail, hdetail⟩ := value.describe_shape
    refine ⟨detail, ?_⟩
    rw [← hdetail]
    rfl
  · intro s
    exact (ofJson_entry_null s).symm
  · intro k
    exact ofJson_eq_ok.mpr (.inl (toJson_eq_str.mpr rfl))

end Kind
end CheckerTags
