import CheckerTags.Kind.Basic

/-!
# CheckerTags.Kind.Parse

Reading a keyword, with a record of what was refused. A text that spells no kind gives the error
that names it, and leaves one event in the log; a keyword leaves none.

* `Kind.parse`: the outcome alone.
* `Kind.parseLogged`, `Kind.parseEach`: one text, or one after the other, with the events.
-/

namespace CheckerTags

/-- Text that spells no modifier keyword. -/
structure UnknownKeyword where
  keyword : String
  deriving DecidableEq

def UnknownKeyword.message (e : UnknownKeyword) : String :=
  "unknown modifier keyword: " ++ e.keyword

/-- What a log can hold: a text that was read as a keyword and refused. -/
inductive Event where
  | rejected (keyword : String)
  deriving DecidableEq

namespace Event

/-- The finest level of a log. -/
def level : Event → String
  | .rejected _ => "TRACE"

def message : Event → String
  | .rejected _ => "rejected modifier keyword"

def keyword : Event → String
  | .rejected s => s

end Event

namespace Kind

def parse (s : String) : Except UnknownKeyword Kind :=
  match ofKeyword? s with
  | some k => .ok k
  | none => .error ⟨s⟩

/-- Reads a keyword and logs a refusal. -/
def parseLogged (s : String) : Except UnknownKeyword Kind × List Event :=
  match parse s with
  | .ok k => (.ok k, [])
  | .error e => (.error e, [.rejected e.keyword])

/-- Reads texts one after the other, each with its own outcome, into one log. -/
def parseEach : List String → List (Except UnknownKeyword Kind) × List Event
  | [] => ([], [])
  | s :: rest =>
    let (outcome, events) := parseLogged s
    let (outcomes, later) := parseEach rest
    (outcome :: outcomes, events ++ later)

/-- Reads keywords up to the first that is refused. -/
def parseAll : List String → Except UnknownKeyword (List Kind)
  | [] => .ok []
  | s :: rest =>
    match parse s with
    | .error e => .error e
    | .ok k =>
      match parseAll rest with
      | .error e => .error e
      | .ok ks => .ok (k :: ks)

end Kind
end CheckerTags
