import CheckerTags.Kind.Basic

/-!
# CheckerTags.Modifiers.Item

What a modifier list can be made of: anything that has a kind. A list may hold bare kinds, tokens
of a source text, or handles on either.

A checker gives out its nodes and types by handle, and a handle on a handle is a handle again.
Wherever a query is defined for a thing, its instance for handles answers as for the thing itself.
-/

namespace CheckerTags

universe u

/-- A handle on a thing of type `α`. -/
structure Handle (α : Type u) where
  target : α
  deriving DecidableEq

/-- Things that stand for a modifier of some kind. -/
class HasKind (μ : Type) where
  kind : μ → Kind

/-- A keyword at its place in a source text. -/
structure Token where
  kind : Kind
  start : Nat
  deriving DecidableEq

instance : HasKind Kind where
  kind k := k

instance : HasKind Token where
  kind := Token.kind

instance {μ : Type} [HasKind μ] : HasKind (Handle μ) where
  kind h := HasKind.kind h.target

/-- The modifier list of a declaration, if the declaration has one at all. -/
abbrev Modifiers (μ : Type) := Option (List μ)

/-- The items of a list; an absent list has none. -/
def Modifiers.items {μ : Type} (ms : Modifiers μ) : List μ := ms.getD []

/-- The kinds of a list's items, in their order. -/
def Modifiers.kinds {μ : Type} [HasKind μ] (ms : Modifiers μ) : List Kind :=
  ms.items.map HasKind.kind

theorem Modifiers.mem_kinds {μ : Type} [HasKind μ] {ms : Modifiers μ} {k : Kind} :
    k ∈ ms.kinds ↔ ∃ m ∈ ms.items, HasKind.kind m = k :=
  List.mem_map

@[simp] theorem Modifiers.kinds_some (ks : List Kind) : Modifiers.kinds (some ks) = ks :=
  List.map_id' ks

end CheckerTags
