import CheckerTags.Binary.Form
import Mathlib.Data.Nat.Digits.Lemmas

/-!
# CheckerTags.Proofs.ByteForm

The binary forms, by the number that bytes stand for (`Binary.value`). Bytes of one length are told
apart by their number, and a word is written as the four bytes that stand for it. So reading takes
the first four bytes and nothing else, and writing what was read gives them back.

* `Binary.decode?_eq_some`, `Binary.decode?_eq_some_iff_encode`: what is read, by the number and by
  the bytes.
* `Binary.testBit_value`: a bit of the number is a bit of one byte.
* `Kind.ofBytes_eq_ok`, `Kind.ofBytes_eq_error`: a kind is read by its place in `Kind.all`.
-/

namespace CheckerTags
namespace Binary

/-- The number that bytes stand for, the lowest byte first. -/
def value (bytes : List UInt8) : Nat := Nat.ofDigits 256 (bytes.map UInt8.toNat)

theorem value_nil : value [] = 0 := rfl

theorem value_cons (b : UInt8) (bytes : List UInt8) :
    value (b :: bytes) = b.toNat + 256 * value bytes :=
  Nat.ofDigits_cons

theorem digits_lt (bytes : List UInt8) : ∀ d ∈ bytes.map UInt8.toNat, d < 256 := by
  intro d hd
  obtain ⟨b, _, rfl⟩ := List.mem_map.mp hd
  exact b.toNat_lt

theorem value_lt (bytes : List UInt8) : value bytes < 256 ^ bytes.length := by
  have h := Nat.ofDigits_lt_base_pow_length (by decide) (digits_lt bytes)
  rwa [List.length_map] at h

theorem eq_of_value_eq {xs ys : List UInt8} (hlen : xs.length = ys.length)
    (h : value xs = value ys) : xs = ys := by
  have hdigits : xs.map UInt8.toNat = ys.map UInt8.toNat :=
    Nat.ofDigits_inj_of_len_eq (by decide) (by simpa using hlen) (digits_lt xs) (digits_lt ys) h
  exact List.map_injective_iff.mpr (fun _ _ => UInt8.toNat_inj.mp) hdigits

theorem testBit_value (bytes : List UInt8) (i : Nat) :
    (value bytes).testBit i = true ↔
      ∃ b, bytes[i / 8]? = some b ∧ b.toNat.testBit (i % 8) = true := by
  induction bytes generalizing i with
  | nil => simp [value_nil]
  | cons b bytes ih =>
    have hb : b.toNat < 2 ^ 8 := b.toNat_lt
    rw [value_cons, Nat.add_comm, show 256 = 2 ^ 8 from rfl, Nat.testBit_two_pow_mul_add _ hb]
    by_cases hi : i < 8
    · rw [if_pos hi, Nat.div_eq_of_lt hi, Nat.mod_eq_of_lt hi]
      simp
    · have hdiv : i / 8 = (i - 8) / 8 + 1 := by omega
      have hmod : i % 8 = (i - 8) % 8 := by omega
      rw [if_neg hi, ih, hdiv, hmod, List.getElem?_cons_succ]

/-! ## Words -/

@[simp] theorem length_encode (word : BitVec 32) : (encode word).length = 4 := rfl

theorem value_encode (word : BitVec 32) : value (encode word) = word.toNat := by
  have hword := word.isLt
  simp only [encode, List.map_cons, List.map_nil, value_cons, value_nil, UInt8.toNat_ofNat']
  omega

theorem decode?_of_length_lt {bytes : List UInt8} (h : bytes.length < 4) :
    decode? bytes = none := by
  match bytes, h with
  | [], _ => rfl
  | [_], _ => rfl
  | [_, _], _ => rfl
  | [_, _, _], _ => rfl
  | _ :: _ :: _ :: _ :: _, h => simp only [List.length_cons] at h; omega

theorem decode?_of_le_length {bytes : List UInt8} (h : 4 ≤ bytes.length) :
    decode? bytes = some (BitVec.ofNat 32 (value (bytes.take 4))) := by
  match bytes, h with
  | a :: b :: c :: d :: rest, _ =>
    have hvalue : value [a, b, c, d] =
        a.toNat + 0x100 * b.toNat + 0x10000 * c.toNat + 0x1000000 * d.toNat := by
      simp only [value_cons, value_nil]
      omega
    simp [decode?, hvalue]

theorem decode?_eq_none {bytes : List UInt8} : decode? bytes = none ↔ bytes.length < 4 := by
  refine ⟨fun h => ?_, decode?_of_length_lt⟩
  by_contra hlen
  rw [decode?_of_le_length (by omega)] at h
  cases h

theorem decode?_eq_some {bytes : List UInt8} {word : BitVec 32} :
    decode? bytes = some word ↔ 4 ≤ bytes.length ∧ value (bytes.take 4) = word.toNat := by
  by_cases hlen : 4 ≤ bytes.length
  · have hlt : value (bytes.take 4) < 2 ^ 32 := by
      have h := value_lt (bytes.take 4)
      rwa [List.length_take, Nat.min_eq_left hlen] at h
    rw [decode?_of_le_length hlen, Option.some_inj, ← BitVec.toNat_inj, BitVec.toNat_ofNat,
      Nat.mod_eq_of_lt hlt]
    simp [hlen]
  · rw [decode?_of_length_lt (by omega)]
    simp [hlen]

theorem decode?_eq_some_iff_encode {bytes : List UInt8} {word : BitVec 32} :
    decode? bytes = some word ↔ 4 ≤ bytes.length ∧ encode word = bytes.take 4 := by
  rw [decode?_eq_some, ← value_encode]
  refine and_congr_right fun hlen => ?_
  have htake : (bytes.take 4).length = 4 := by rw [List.length_take, Nat.min_eq_left hlen]
  constructor
  · intro h
    exact (eq_of_value_eq (by rw [htake, length_encode]) h).symm
  · intro h
    rw [h]

theorem decode?_encode_append (word : BitVec 32) (rest : List UInt8) :
    decode? (encode word ++ rest) = some word := by
  refine decode?_eq_some_iff_encode.mpr ⟨?_, ?_⟩
  · simp
  · rw [List.take_left' (length_encode word)]

end Binary

/-! ## Sets of flags -/

namespace Flags

open Binary (DecodeError value)

variable {v : Vocab}

theorem ofBytes_eq_ok {bytes : List UInt8} {a : Flags v} :
    ofBytes bytes = .ok a ↔ Binary.decode? bytes = some a.bits := by
  unfold ofBytes
  cases Binary.decode? bytes with
  | none => simp
  | some word => simp [Flags.ext_iff]

theorem ofBytes_eq_error {bytes : List UInt8} {e : DecodeError} :
    (ofBytes bytes : Except DecodeError (Flags v)) = .error e ↔
      bytes.length < 4 ∧ e = .unexpectedEnd := by
  rw [← Binary.decode?_eq_none]
  unfold ofBytes
  cases Binary.decode? bytes with
  | none => simp [eq_comm]
  | some word => simp

theorem exists_ofBytes_eq_ok {bytes : List UInt8} :
    (∃ a : Flags v, ofBytes bytes = .ok a) ↔ 4 ≤ bytes.length := by
  constructor
  · rintro ⟨a, ha⟩
    exact (Binary.decode?_eq_some.mp (ofBytes_eq_ok.mp ha)).1
  · intro hlen
    exact ⟨⟨_⟩, ofBytes_eq_ok.mpr (Binary.decode?_of_le_length hlen)⟩

theorem ofBytes_eq_ok_iff_bits {bytes : List UInt8} {a : Flags v} :
    ofBytes bytes = .ok a ↔ 4 ≤ bytes.length ∧
      ∀ i, i ∈ a ↔ ∃ b, (bytes.take 4)[i / 8]? = some b ∧ b.toNat.testBit (i % 8) = true := by
  rw [ofBytes_eq_ok, Binary.decode?_eq_some]
  refine and_congr_right fun _ => ?_
  simp only [← Binary.testBit_value, mem_def, ← BitVec.testBit_toNat]
  constructor
  · intro h i
    rw [h]
  · intro h
    exact Nat.eq_of_testBit_eq fun i => (Bool.eq_iff_iff.mpr (h i)).symm

end Flags

/-! ## Kinds -/

namespace Kind

open Binary (DecodeError value)

theorem index_lt (k : Kind) : k.index < all.length :=
  (List.getElem?_eq_some_iff.mp (all_getElem?_index k)).1

theorem all_getElem?_eq_some {n : Nat} {k : Kind} : all[n]? = some k ↔ n = k.index := by
  constructor
  · intro h
    have hlt : n < all.length := (List.getElem?_eq_some_iff.mp h).1
    have distinct : all.Nodup := by decide
    exact (List.getElem?_inj hlt distinct).mp (h.trans (all_getElem?_index k).symm)
  · rintro rfl
    exact all_getElem?_index k

theorem toNat_index (k : Kind) : (BitVec.ofNat 32 k.index).toNat = k.index := by
  have hlt : k.index < 15 := k.index_lt
  rw [BitVec.toNat_ofNat]
  omega

theorem ofBytes_eq_ok {bytes : List UInt8} {k : Kind} :
    ofBytes bytes = .ok k ↔ Binary.decode? bytes = some (BitVec.ofNat 32 k.index) := by
  unfold ofBytes
  cases Binary.decode? bytes with
  | none => simp
  | some word =>
    have hindex : ofIndex? word.toNat = some k ↔ word = BitVec.ofNat 32 k.index := by
      rw [ofIndex?, all_getElem?_eq_some, ← BitVec.toNat_inj, toNat_index]
    rw [Option.some_inj, ← hindex]
    cases h : ofIndex? word.toNat <;> simp [h]

theorem ofBytes_eq_ok_iff_value {bytes : List UInt8} {k : Kind} :
    ofBytes bytes = .ok k ↔ 4 ≤ bytes.length ∧ all[value (bytes.take 4)]? = some k := by
  rw [ofBytes_eq_ok, Binary.decode?_eq_some, toNat_index, all_getElem?_eq_some]

theorem ofBytes_eq_error {bytes : List UInt8} {e : DecodeError} :
    ofBytes bytes = .error e ↔
      (bytes.length < 4 ∧ e = .unexpectedEnd) ∨
        (4 ≤ bytes.length ∧ all.length ≤ value (bytes.take 4) ∧
          e = .badIndex (value (bytes.take 4))) := by
  unfold ofBytes
  cases hdecode : Binary.decode? bytes with
  | none =>
    have hlen := Binary.decode?_eq_none.mp hdecode
    simp [hlen, Nat.not_le_of_lt hlen, eq_comm]
  | some word =>
    obtain ⟨hlen, hvalue⟩ := Binary.decode?_eq_some.mp hdecode
    cases hindex : ofIndex? word.toNat with
    | none =>
      have hle : all.length ≤ word.toNat := List.getElem?_eq_none_iff.mp hindex
      simp [hindex, hvalue, hlen, hle, Nat.not_lt_of_le hlen, eq_comm]
    | some k =>
      have hlt : word.toNat < all.length := (List.getElem?_eq_some_iff.mp hindex).1
      simp [hindex, hvalue, Nat.not_lt_of_le hlen, Nat.not_le_of_lt hlt]

end Kind

/-! ## Both forms -/

namespace Binary

theorem message_badIndex (n : Nat) : (DecodeError.badIndex n).message =
    "invalid value: integer `" ++ toString n ++ "`, expected variant index 0 <= i < 15" := by
  have hmessage : (DecodeError.badIndex n).message = "invalid value: integer `" ++ toString n ++
      "`, expected variant index 0 <= i < " ++ toString Kind.all.length := rfl
  have hplaces : "`, expected variant index 0 <= i < " ++ toString Kind.all.length =
      "`, expected variant index 0 <= i < 15" := by decide
  rw [hmessage, String.append_assoc, hplaces]

/-- A set of flags is read from any four bytes, bit by bit, and a kind from the four bytes of its
place; what follows does not count, and these are the bytes that are written. Fewer bytes are an
error before their number is looked at. -/
theorem reading_inverts_writing (v : Vocab) :
    (∀ (bytes : List UInt8) (e : DecodeError),
      (Flags.ofBytes bytes : Except DecodeError (Flags v)) = .error e ↔
        bytes.length < 4 ∧ e = .unexpectedEnd) ∧
    (∀ bytes : List UInt8, (∃ a : Flags v, Flags.ofBytes bytes = .ok a) ↔ 4 ≤ bytes.length) ∧
    (∀ (bytes : List UInt8) (a : Flags v),
      (Flags.ofBytes bytes = .ok a ↔ 4 ≤ bytes.length ∧
        ∀ i, i ∈ a ↔ ∃ b, (bytes.take 4)[i / 8]? = some b ∧ b.toNat.testBit (i % 8) = true) ∧
      (Flags.ofBytes bytes = .ok a ↔ 4 ≤ bytes.length ∧ a.toBytes = bytes.take 4)) ∧
    (∀ (a : Flags v) (rest : List UInt8), Flags.ofBytes (a.toBytes ++ rest) = .ok a) ∧
    (∀ (bytes : List UInt8) (k : Kind),
      (Kind.ofBytes bytes = .ok k ↔ 4 ≤ bytes.length ∧ Kind.all[value (bytes.take 4)]? = some k) ∧
      (Kind.ofBytes bytes = .ok k ↔ 4 ≤ bytes.length ∧ k.toBytes = bytes.take 4)) ∧
    (∀ (bytes : List UInt8) (e : DecodeError), Kind.ofBytes bytes = .error e ↔
      (bytes.length < 4 ∧ e = .unexpectedEnd) ∨
        (4 ≤ bytes.length ∧ 15 ≤ value (bytes.take 4) ∧ e = .badIndex (value (bytes.take 4)))) ∧
    (∀ n : Nat, (DecodeError.badIndex n).message =
      "invalid value: integer `" ++ toString n ++ "`, expected variant index 0 <= i < 15") ∧
    (∀ (k : Kind) (rest : List UInt8), Kind.ofBytes (k.toBytes ++ rest) = .ok k) := by
  refine ⟨?_, ?_, ?_, ?_, ?_, ?_, message_badIndex, ?_⟩
  · intro bytes e
    exact Flags.ofBytes_eq_error
  · intro bytes
    exact Flags.exists_ofBytes_eq_ok
  · intro bytes a
    refine ⟨Flags.ofBytes_eq_ok_iff_bits, ?_⟩
    rw [Flags.ofBytes_eq_ok, decode?_eq_some_iff_encode]
    rfl
  · intro a rest
    exact Flags.ofBytes_eq_ok.mpr (decode?_encode_append a.bits rest)
  · intro bytes k
    refine ⟨Kind.ofBytes_eq_ok_iff_value, ?_⟩
    rw [Kind.ofBytes_eq_ok, decode?_eq_some_iff_encode]
    rfl
  · intro bytes e
    exact Kind.ofBytes_eq_error
  · intro k rest
    exact Kind.ofBytes_eq_ok.mpr (decode?_encode_append _ rest)

end Binary
end CheckerTags
