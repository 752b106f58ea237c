import CheckerTags.Kind.Basic

/-!
# CheckerTags.Binary.Form

The binary forms: a set of flags is its word, a kind is its place in the order of kinds. A word is
written as four bytes, the lowest first, and what follows the fourth byte is not looked at. Too few
bytes are an error before anything else is looked at.
-/

namespace CheckerTags
namespace Binary

def encode (word : BitVec 32) : List UInt8 :=
  [word.toNat, word.toNat / 0x100, word.toNat / 0x10000, word.toNat / 0x1000000].map UInt8.ofNat

def decode? : List UInt8 → Option (BitVec 32)
  | a :: b :: c :: d :: _ =>
    some (BitVec.ofNat 32
      (a.toNat + 0x100 * b.toNat + 0x10000 * c.toNat + 0x1000000 * d.toNat))
  | _ => none

inductive DecodeError where
  /-- There are fewer than four bytes. -/
  | unexpectedEnd
  /-- No kind has this place. -/
  | badIndex (n : Nat)
  deriving DecidableEq

/-- What an error says besides its kind. That the bytes end too early is all there is to say. -/
def DecodeError.message : DecodeError → String
  | .unexpectedEnd => ""
  | .badIndex n =>
    "invalid value: integer `" ++ toString n ++ "`, expected variant index 0 <= i < " ++
      toString Kind.all.length

end Binary

namespace Flags

variable {v : Vocab}

def toBytes (a : Flags v) : List UInt8 := Binary.encode a.bits

def ofBytes (bytes : List UInt8) : Except Binary.DecodeError (Flags v) :=
  match Binary.decode? bytes with
  | some word => .ok ⟨word⟩
  | none => .error .unexpectedEnd

end Flags

namespace Kind

def toBytes (k : Kind) : List UInt8 := Binary.encode (BitVec.ofNat 32 k.index)

def ofBytes (bytes : List UInt8) : Except Binary.DecodeError Kind :=
  match Binary.decode? bytes with
  | some word =>
    match ofIndex? word.toNat with
    | some k => .ok k
    | none => .error (.badIndex word.toNat)
  | none => .error .unexpectedEnd

end Kind
end CheckerTags
