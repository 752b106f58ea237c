import CheckerTags.Vocab.Modifier

/-!
# CheckerTags.Kind.Basic

The kinds of modifier that a keyword spells. Each kind has a keyword, a flag of its own, and a
place in the order of `Kind.all`, which is also the order of the type.

A kind is classified by its flag alone: `isAccessibility`, `isParameterProperty` and
`isTypescriptOnly` ask whether the flag lies in the composite of that name.

* `Kind.mem_all`: no kind is missing from `Kind.all`.
* `Kind.all_getElem?_index`: the index of a kind is its place in `Kind.all`.
-/

namespace CheckerTags

/-- A modifier keyword that can precede a declaration. -/
inductive Kind where
  | abstract
  | accessor
  | async
  | const
  | declare
  | default
  | «export»
  | «in»
  | out
  | override
  | «private»
  | «protected»
  | «public»
  | readonly
  | static
  deriving DecidableEq

namespace Kind

/-- Every kind, in order. -/
def all : List Kind :=
  [.abstract, .accessor, .async, .const, .declare, .default, .export, .in, .out, .override,
   .private, .protected, .public, .readonly, .static]

theorem mem_all (k : Kind) : k ∈ all := by
  cases k <;> decide

/-! ## Spelling -/

def keyword : Kind → String
  | .abstract => "abstract"
  | .accessor => "accessor"
  | .async => "async"
  | .const => "const"
  | .declare => "declare"
  | .default => "default"
  | .export => "export"
  | .in => "in"
  | .out => "out"
  | .override => "override"
  | .private => "private"
  | .protected => "protected"
  | .public => "public"
  | .readonly => "readonly"
  | .static => "static"

instance : ToString Kind where
  toString := keyword

/-- The name of the kind itself. -/
def name : Kind → String
  | .abstract => "Abstract"
  | .accessor => "Accessor"
  | .async => "Async"
  | .const => "Const"
  | .declare => "Declare"
  | .default => "Default"
  | .export => "Export"
  | .in => "In"
  | .out => "Out"
  | .override => "Override"
  | .private => "Private"
  | .protected => "Protected"
  | .public => "Public"
  | .readonly => "Readonly"
  | .static => "Static"

/-- The spelling in JSON: the kind's name in lower case. -/
def jsonName (k : Kind) : String := String.ofList (k.name.toList.map Char.toLower)

/-- The kind that a keyword spells. Case counts. -/
def ofKeyword? (s : String) : Option Kind := all.find? fun k => k.keyword == s

/-- The kind with a JSON spelling. -/
def ofJsonName? (s : String) : Option Kind := all.find? fun k => k.jsonName == s

/-! ## Flags -/

def flag : Kind → ModifierFlags
  | .abstract => .abstract
  | .accessor => .accessor
  | .async => .async
  | .const => .const
  | .declare => .ambient
  | .default => .default
  | .export => .export
  | .in => .in
  | .out => .out
  | .override => .override
  | .private => .private
  | .protected => .protected
  | .public => .public
  | .readonly => .readonly
  | .static => .static

/-- `public`, `private` or `protected`. -/
def isAccessibility (k : Kind) : Bool := k.flag.intersects ModifierFlags.accessibilityModifier

/-- Whether the keyword turns a parameter of a constructor into a property. -/
def isParameterProperty (k : Kind) : Bool :=
  k.flag.intersects ModifierFlags.parameterPropertyModifier

/-- Whether the keyword exists only in the typed language. -/
def isTypescriptOnly (k : Kind) : Bool := k.flag.intersects ModifierFlags.typescriptModifier

/-! ## Order -/

def index (k : Kind) : Nat := k.ctorIdx

def ofIndex? (i : Nat) : Option Kind := all[i]?

theorem all_getElem?_index (k : Kind) : all[k.index]? = some k := by
  cases k <;> rfl

theorem index_injective {a b : Kind} (h : a.index = b.index) : a = b := by
  have := all_getElem?_index a
  rw [h, all_getElem?_index b] at this
  exact (Option.some.inj this).symm

instance : LE Kind where
  le a b := a.index ≤ b.index

instance : LT Kind where
  lt a b := a.index < b.index

instance (a b : Kind) : Decidable (a ≤ b) := Nat.decLe a.index b.index

instance (a b : Kind) : Decidable (a < b) := Nat.decLt a.index b.index

instance : Ord Kind where
  compare a b := compare a.index b.index

instance : Min Kind := minOfLe

instance : Max Kind := maxOfLe

/-- A list of kinds in order, duplicates kept. -/
def sorted (ks : List Kind) : List Kind := ks.mergeSort fun a b => decide (a ≤ b)

/-- The kinds of a list in order, each once. -/
def sortedUnique (ks : List Kind) : List Kind := (sorted ks).eraseReps

end Kind
end CheckerTags
