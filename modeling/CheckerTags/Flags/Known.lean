import CheckerTags.Vocab.Constants

/-!
# CheckerTags.Flags.Known

The bits of a vocabulary that have a name, and the operations that keep to them: `truncate`,
`compl`, `isAll`, `ofBits?`. All other operations keep the unknown bits too.

* `mem_truncate`, `mem_compl`: what the truncating operations do to a position.
-/

namespace CheckerTags
namespace Flags

variable {v : Vocab}

/-- Every named bit: the union of the constants. -/
def known (v : Vocab) : Flags v := unionAll (v.constants.map Constant.flags)

/-- The named bits of a set. -/
def truncate (a : Flags v) : Flags v := a ∩ known v

/-- The named bits that are not in a set. -/
def compl (a : Flags v) : Flags v := known v \ a

/-- Whether every named bit is in a set; bits without a name may be in it as well. -/
def isAll (a : Flags v) : Bool := a.contains (known v)

/-- A word as a set of flags, if all its bits have names. -/
def ofBits? (word : BitVec 32) : Option (Flags v) :=
  let a : Flags v := ⟨word⟩
  if a.truncate = a then some a else none

@[simp] theorem mem_truncate {i : Nat} {a : Flags v} : i ∈ a.truncate ↔ i ∈ a ∧ i ∈ known v :=
  mem_inter

@[simp] theorem mem_compl {i : Nat} {a : Flags v} : i ∈ a.compl ↔ i ∈ known v ∧ ¬ i ∈ a :=
  mem_sdiff

@[simp] theorem isAll_iff {a : Flags v} : a.isAll = true ↔ known v ⊆ a :=
  contains_iff

end Flags
end CheckerTags
