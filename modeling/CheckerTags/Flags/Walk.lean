import CheckerTags.Flags.Known

/-!
# CheckerTags.Flags.Walk

The names of a set. A walk goes through a table of constants and yields one when all its bits are
in the set and at least one of them has not been yielded yet. What no constant accounts for is
left over.

* `Flags.named`, `Flags.remaining`: the walk through the vocabulary's own table.
* `Flags.pieces`: the set cut into the yielded constants and the rest.
-/

namespace CheckerTags

/-- The outcome of a walk through a table of constants. -/
structure Walk (v : Vocab) where
  /-- The constants that were yielded, in the order of the table. -/
  named : List (Constant v)
  /-- The bits that none of them covers. -/
  left : Flags v

namespace Walk

variable {v : Vocab}

/-- Walks through `table` with `left` still to be covered of the set `source`. -/
def through (source : Flags v) : List (Constant v) → Flags v → Walk v
  | [], left => ⟨[], left⟩
  | c :: table, left =>
    if source.contains c.flags && left.intersects c.flags then
      let w := through source table (left \ c.flags)
      ⟨c :: w.named, w.left⟩
    else through source table left

end Walk

namespace Flags

variable {v : Vocab}

/-- The walk of a set through the table of its vocabulary. -/
def walk (a : Flags v) : Walk v := Walk.through a v.constants a

def named (a : Flags v) : List (Constant v) := a.walk.named

def names (a : Flags v) : List String := a.named.map Constant.name

/-- The bits of a set that its names do not cover. -/
def remaining (a : Flags v) : Flags v := a.walk.left

/-- A set in pieces: its constants, then the remaining bits if there are any. -/
def pieces (a : Flags v) : List (Flags v) :=
  a.named.map Constant.flags ++ if a.remaining.isEmpty then [] else [a.remaining]

end Flags
end CheckerTags
