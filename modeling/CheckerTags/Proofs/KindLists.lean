import CheckerTags.Proofs.KindJson
import CheckerTags.Proofs.Traversal

/-!
# CheckerTags.Proofs.KindLists

Lists of kinds in JSON. An array is read element by element (`Kind.ofElements_eq_mapM`), so its
elements are read as they are alone: it gives as many kinds as it has elements, each at the place
of its element and in whichever of the two spellings, or the error of the first element that is no
kind. Arrays can be put together before they are read or after.

* `Kind.listOfJson_eq_ok`, `Kind.listOfJson_arr_eq_error`: the outcomes of reading.
* `Kind.listOfJson_append`: arrays one after the other.
-/

namespace CheckerTags
namespace Kind

open Json (ReadError)
open Traversal (FirstRefused)

theorem ofElements_eq_mapM (items : List Json) : ofElements items = items.mapM ofJson := by
  induction items with
  | nil => rfl
  | cons item items ih =>
    rw [ofElements, ih]
    cases hitem : ofJson item with
    | error e => exact (Traversal.mapM_cons_of_error hitem items).symm
    | ok k =>
      rw [Traversal.mapM_cons_of_ok hitem]
      cases items.mapM ofJson <;> rfl

/-! ## Outcomes -/

theorem listOfJson_arr_eq_ok {items : List Json} {ks : List Kind} :
    listOfJson (.arr items) = .ok ks ↔ List.Forall₂ (fun item k => ofJson item = .ok k) items ks := by
  rw [listOfJson, ofElements_eq_mapM, Traversal.mapM_eq_ok]

theorem listOfJson_arr_eq_error {items : List Json} {e : ReadError} :
    listOfJson (.arr items) = .error e ↔ FirstRefused ofJson items e := by
  rw [listOfJson, ofElements_eq_mapM, Traversal.mapM_eq_error]

theorem listOfJson_of_ne_arr {value : Json} (h : ∀ items, value ≠ .arr items) :
    listOfJson value = .error (.invalidType value.shape .sequence) := by
  cases value with
  | arr items => exact absurd rfl (h items)
  | _ => rfl

theorem listOfJson_eq_ok {value : Json} {ks : List Kind} :
    listOfJson value = .ok ks ↔
      ∃ items, value = .arr items ∧ List.Forall₂ (fun item k => ofJson item = .ok k) items ks := by
  constructor
  · intro h
    by_cases harr : ∃ items, value = .arr items
    · obtain ⟨items, rfl⟩ := harr
      exact ⟨items, rfl, listOfJson_arr_eq_ok.mp h⟩
    · rw [listOfJson_of_ne_arr (not_exists.mp harr)] at h
      cases h
  · rintro ⟨items, rfl, hitems⟩
    exact listOfJson_arr_eq_ok.mpr hitems

theorem listOfJson_append (xs ys : List Json) :
    listOfJson (.arr (xs ++ ys)) = do
      let ks ← listOfJson (.arr xs)
      let ls ← listOfJson (.arr ys)
      return ks ++ ls := by
  simp only [listOfJson, ofElements_eq_mapM]
  exact List.mapM_append

theorem listOfJson_listToJson (ks : List Kind) : listOfJson (listToJson ks) = .ok ks := by
  rw [listToJson, listOfJson_arr_eq_ok, List.forall₂_map_left_iff, List.forall₂_same]
  intro k _
  exact ofJson_str_eq_ok.mpr (toJson_eq_str.mp rfl)

/-- A list of kinds is read from an array, each element as it is read alone; the first element that
is refused gives the error. What is written is read back. -/
theorem array_read_in_order :
    (∀ (value : Json) (ks : List Kind), listOfJson value = .ok ks ↔
      ∃ items, value = .arr items ∧ items.length = ks.length ∧
        ∀ (i : Nat) (hi : i < items.length) (hk : i < ks.length),
          ofJson items[i] = .ok ks[i]) ∧
    (∀ (items : List Json) (ks : List Kind), listOfJson (.arr items) = .ok ks ↔
      List.Forall₂ (fun item k => item = .str k.keyword ∨ item = .obj [(k.keyword, .null)])
        items ks) ∧
    (∀ value : Json, (∀ items, value ≠ .arr items) →
      listOfJson value = .error (.invalidType value.shape .sequence) ∧
      ∃ detail, (ReadError.invalidType value.shape .sequence).message =
        "invalid type: " ++ (value.typeName ++ detail) ++ ", expected " ++ "a sequence") ∧
    (∀ (items : List Json) (e : ReadError),
      listOfJson (.arr items) = .error e ↔ FirstRefused ofJson items e) ∧
    (∀ items : List Json, (∃ e, listOfJson (.arr items) = .error e) ↔
      ∃ item ∈ items, ∃ e, ofJson item = .error e) ∧
    (∀ xs ys : List Json, listOfJson (.arr (xs ++ ys)) = do
      let ks ← listOfJson (.arr xs)
      let ls ← listOfJson (.arr ys)
      return ks ++ ls) ∧
    (∀ ks : List Kind, listOfJson (listToJson ks) = .ok ks) := by
  refine ⟨?_, ?_, ?_, ?_, ?_, listOfJson_append, listOfJson_listToJson⟩
  · intro value ks
    simp only [listOfJson_eq_ok, List.forall₂_iff_get, List.get_eq_getElem]
  · intro items ks
    simp only [listOfJson_arr_eq_ok, ofJson_eq_ok]
  · intro value h
    obtain ⟨detail, hdetail⟩ := value.describe_shape
    refine ⟨listOfJson_of_ne_arr h, detail, ?_⟩
    rw [← hdetail]
    rfl
  · intro items e
    exact listOfJson_arr_eq_error
  · intro items
    simp only [listOfJson_arr_eq_error, Traversal.exists_firstRefused]

/-- Both spellings, then an object that is refused and a number that is not reached. -/
theorem array_read_in_order_mixed :
    let good : List Json := [.str "in", .obj [("out", .null)]]
    let bad : Json := .obj [("static", .int 1)]
    let e : ReadError := .invalidType (.int 1) .unit
    listOfJson (.arr good) = .ok [.in, .out] ∧
    listOfJson (.arr (good ++ bad :: [.int 7])) = .error e ∧
    (∀ items, bad ≠ .arr items) ∧
    listOfJson bad = .error (.invalidType .map .sequence) := by
  intro good bad e
  obtain ⟨_, hspelled, htype, hfirst, _⟩ := array_read_in_order
  have hgood : listOfJson (.arr good) = .ok [.in, .out] :=
    (hspelled good _).mpr (.cons (.inl rfl) (.cons (.inr rfl) .nil))
  have hbefore : ∀ x ∈ good, ∃ k, ofJson x = .ok k := by
    refine List.forall_mem_cons.mpr ⟨⟨.in, ?_⟩, List.forall_mem_singleton.mpr ⟨.out, ?_⟩⟩
    · exact ofJson_eq_ok.mpr (.inl rfl)
    · exact ofJson_eq_ok.mpr (.inr rfl)
  have hrefused : Refused (.obj [(Kind.static.keyword, .int 1)]) e := .below (by simp)
  have harr : ∀ items, bad ≠ .arr items := by
    simp [bad]
  refine ⟨hgood, ?_, harr, (htype bad harr).1⟩
  exact (hfirst _ e).mpr ⟨good, bad, [.int 7], rfl, hbefore, ofJson_eq_error.mpr hrefused⟩

end Kind
end CheckerTags
