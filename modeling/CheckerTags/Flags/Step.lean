import CheckerTags.Json.Error
import CheckerTags.Run

/-!
# CheckerTags.Flags.Step

Editing and asking a set of flags step by step. Only `load` can fail, and a text that is refused
half way has changed nothing by then.

Of the edits, `truncate`, `compl` and `all` keep to the named bits; all others take unknown bits
like any. What `load` reads is a JSON string that holds a text form (`ofJson`).
-/

namespace CheckerTags
namespace Flags

/-! ## Sets of flags in JSON -/

def ofJson {v : Vocab} : Json → Except Json.ReadError (Flags v)
  | .str s =>
    match ofText s with
    | .ok a => .ok a
    | .error e => .error (.badText e)
  | other => .error (.invalidType other.shape .flagText)

def toJson {v : Vocab} (a : Flags v) : Json := .str a.text

/-! ## Steps -/

inductive Step (v : Vocab) where
  | insert (b : Flags v)
  | remove (b : Flags v)
  | toggle (b : Flags v)
  | union (b : Flags v)
  | inter (b : Flags v)
  | sdiff (b : Flags v)
  | symmDiff (b : Flags v)
  /-- Inserts or removes, by the given truth value. -/
  | set (b : Flags v) (on : Bool)
  | compl
  | truncate
  | clear
  /-- Replaces the set by all named bits. -/
  | all
  /-- Inserts one set after the other. -/
  | extend (items : List (Flags v))
  /-- Replaces the set by the union of others. -/
  | collect (items : List (Flags v))
  /-- Inserts the constant of a name, and tells which it is. -/
  | insertName (name : String)
  /-- Replaces the set by one that is read from JSON. -/
  | load (value : Json)
  | contains (b : Flags v)
  | intersects (b : Flags v)
  | isSet (b : Flags v)

inductive Reply (v : Vocab) where
  | done
  | truth (b : Bool)
  /-- The constant that a name stands for, if there is one. -/
  | constant (a : Option (Flags v))
  deriving DecidableEq

variable {v : Vocab}

def step (a : Flags v) : Step v → Except Json.ReadError (Reply v × Flags v)
  | .insert b => .ok (.done, a ∪ b)
  | .remove b => .ok (.done, a \ b)
  | .toggle b => .ok (.done, a.symmDiff b)
  | .union b => .ok (.done, a ∪ b)
  | .inter b => .ok (.done, a ∩ b)
  | .sdiff b => .ok (.done, a \ b)
  | .symmDiff b => .ok (.done, a.symmDiff b)
  | .set b on => .ok (.done, if on then a ∪ b else a \ b)
  | .compl => .ok (.done, a.compl)
  | .truncate => .ok (.done, a.truncate)
  | .clear => .ok (.done, ∅)
  | .all => .ok (.done, known v)
  | .extend items => .ok (.done, items.foldl (· ∪ ·) a)
  | .collect items => .ok (.done, unionAll items)
  | .insertName name =>
    match ofName? name with
    | some b => .ok (.constant (some b), a ∪ b)
    | none => .ok (.constant none, a)
  | .load value =>
    match ofJson value with
    | .ok b => .ok (.done, b)
    | .error e => .error e
  | .contains b => .ok (.truth (a.contains b), a)
  | .intersects b => .ok (.truth (a.intersects b), a)
  | .isSet b => .ok (.truth (a.isSet b), a)

def run (a : Flags v) (steps : List (Step v)) : List (Entry (Flags v) Json.ReadError (Reply v)) :=
  Run.entries step a steps

def final (a : Flags v) (steps : List (Step v)) : Flags v := Run.final step a steps

end Flags
end CheckerTags
