import Errand.Json.Record
import Errand.Plan.Basic

/-!
# Outcomes

An `Outcome` is the record of carrying out a plan: whether it worked, what was
found, how many steps were taken, what went wrong and which tier did the work.
It is what the answer to the user is written from.
-/

namespace Errand

/-- One thing that was found or done: a title, an address and a text. -/
structure Evidence where
  title : String
  href : String
  body : String
deriving DecidableEq, Repr

/-- The tier that carried out a plan. -/
inductive Source where
  | preferred
  | localTier
deriving DecidableEq, Repr

namespace Source

/-- The tier as a word. -/
def name : Source → String
  | .preferred => "preferred"
  | .localTier => "local"

/-- The tiers by their words. -/
def names : List (String × Source) :=
  [("preferred", .preferred), ("local", .localTier)]

end Source

/-- The record of carrying out a plan. -/
structure Outcome where
  success : Bool
  evidence : List Evidence
  kind : OperationKind
  platform : String
  steps : Nat
  error : Option String
  source : Option Source
deriving DecidableEq, Repr

namespace Outcome

/-- The record of a plan before anything has been done. -/
def blank (p : Plan) : Outcome := ⟨false, [], p.kind, p.platform, 0, none, none⟩

/-- The record of a plan that could not be carried out. -/
def failed (p : Plan) (error : String) : Outcome :=
  { blank p with error := some error }

/-- The record with the tier that did the work. -/
def tagged (o : Outcome) (s : Source) : Outcome := { o with source := some s }

/-! ### As JSON -/

open Json.Decoder in
/-- Reads a piece of evidence. -/
def evidenceDecoder : Json.Decoder Evidence :=
  record "EvidenceItem"
    [slot "title" .required text fun s e => { e with title := s },
      slot "href" .required text fun s e => { e with href := s },
      slot "body" .required text fun s e => { e with body := s }]
    ⟨"", "", ""⟩

open Json.Decoder in
/-- Reads a record. -/
def decoder : Json.Decoder Outcome :=
  record "ExecutionResult"
    [slot "success" .required bool fun b o => { o with success := b },
      slot "evidence" .required (list evidenceDecoder) fun es o =>
        { o with evidence := es },
      slot "operation_type" .required (choice OperationKind.names) fun k o =>
        { o with kind := k },
      slot "target_platform" .required text fun s o => { o with platform := s },
      slot "steps_executed" .required (count "usize") fun n o =>
        { o with steps := n },
      slot "error" .defaulted (nullable text) fun s o => { o with error := s },
      slot "source" .defaulted (nullable (choice Source.names)) fun s o =>
        { o with source := s }]
    ⟨false, [], .search, "", 0, none, none⟩

/-- A piece of evidence as a value. -/
def evidenceToJson (e : Evidence) : Json :=
  .obj [("title", .str e.title), ("href", .str e.href), ("body", .str e.body)]

/-- The record as a value, its fields in the order of their definition; what is
absent is left out. -/
def toJson (o : Outcome) : Json :=
  .obj ([("success", .bool o.success),
      ("evidence", .arr (o.evidence.map evidenceToJson)),
      ("operation_type", .str o.kind.name),
      ("target_platform", .str o.platform),
      ("steps_executed", Json.ofNat o.steps)] ++
    (o.error.map fun e => ("error", Json.str e)).toList ++
    (o.source.map fun s => ("source", Json.str s.name)).toList)

end Outcome

end Errand
