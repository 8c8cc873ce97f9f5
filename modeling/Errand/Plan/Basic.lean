import Errand.Plan.Instruction

/-!
# Plans

A plan says what is to be done about a request, where, and with which words: a
search, a page to look at, steps to carry out, or an answer from what is
already known.
-/

namespace Errand

/-- The kinds of operations. -/
inductive OperationKind where
  | search
  | browse
  | automate
  | answer
deriving DecidableEq, Repr

namespace OperationKind

/-- The kind as a word. -/
def name : OperationKind → String
  | .search => "search"
  | .browse => "browse"
  | .automate => "automate"
  | .answer => "answer"

/-- The kinds by their words. -/
def names : List (String × OperationKind) :=
  [("search", .search), ("browse", .browse), ("automate", .automate),
    ("answer", .answer)]

/-- The kind that a word stands for, in any case and between blanks. Any other
text asks for a search. -/
def ofText (s : String) : OperationKind :=
  (names.lookup (Text.lower (Text.trim s))).getD .search

end OperationKind

/-- An operation with what it takes. -/
inductive Operation where
  | search
  | browse (url : Option String)
  | automate (steps : List Instruction)
  | answer
deriving BEq, Repr

/-- The kind of an operation. -/
def Operation.kind : Operation → OperationKind
  | .search => .search
  | .browse _ => .browse
  | .automate _ => .automate
  | .answer => .answer

/-- What is to be done about a request, on which platform, and with which
words. -/
structure Plan where
  operation : Operation
  platform : String
  context : String
deriving BEq, Repr

/-- The name of the platform that is no platform: the plain browser. -/
def browserPlatform : String := "browser"

namespace Plan

/-- The plan that is always possible: a search for the request in the
browser. -/
def fallback (request : String) : Plan := ⟨.search, browserPlatform, request⟩

/-- The kind of the plan's operation. -/
def kind (p : Plan) : OperationKind := p.operation.kind

/-- The plan names no platform but the plain browser. -/
def isBrowser (p : Plan) : Bool :=
  let platform := Text.trim p.platform
  platform.isEmpty || Text.sameAsciiCase platform browserPlatform

end Plan

end Errand
