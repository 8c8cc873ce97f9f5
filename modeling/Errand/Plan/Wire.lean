import Errand.Json.Record
import Errand.Plan.Basic

/-!
# Plans as JSON

`PlanWire` is a plan as it travels: five fields, of which every one may be
missing and all but the address may be null. `Plan.ofWire` turns any of them
into a plan, for a planner may write anything: unknown operations become a
browser search, a missing platform becomes the browser, steps that are not
objects are dropped. `Plan.toWire` writes a plan in this form.
-/

namespace Errand

/-- A plan as it travels. -/
structure PlanWire where
  operation : String
  platform : String
  steps : List Json
  context : String
  url : Option String

namespace PlanWire

/-- The record with nothing in it. -/
def empty : PlanWire := ⟨"", "", [], "", none⟩

open Json.Decoder in
/-- Reads the record. -/
def decoder : Json.Decoder PlanWire :=
  record "PlanWire"
    [slot "operation_type" .defaulted (orDefault "" text) fun s w =>
        { w with operation := s },
      slot "target_platform" .defaulted (orDefault "" text) fun s w =>
        { w with platform := s },
      slot "steps" .defaulted (orDefault [] (list value)) fun js w =>
        { w with steps := js },
      slot "context" .defaulted (orDefault "" text) fun s w =>
        { w with context := s },
      slot "url" .defaulted (nullable text) fun s w => { w with url := s }]
    empty

/-- The record as a value, its fields in the order of their definition. -/
def toJson (w : PlanWire) : Json :=
  .obj ([("operation_type", .str w.operation),
      ("target_platform", .str w.platform), ("steps", .arr w.steps),
      ("context", .str w.context)] ++
    (w.url.map fun u => ("url", Json.str u)).toList)

end PlanWire

namespace Plan

/-- The platform of a plan that says `spelled`. A plan whose operation is not
understood is one for the browser, whatever platform it names. -/
def platformOf (operation spelled : String) : String :=
  let platform := Text.trim spelled
  if platform.isEmpty then browserPlatform
  else if OperationKind.ofText operation = .search ∧
      !Text.sameAsciiCase (Text.trim operation) "search" then browserPlatform
  else platform

/-- The plan that a record means. -/
def ofWire (w : PlanWire) : Plan :=
  let operation :=
    match OperationKind.ofText w.operation with
    | .search => Operation.search
    | .browse => .browse (w.url.filter fun u => !Text.isBlank u)
    | .automate => .automate (w.steps.filterMap Instruction.ofJson?)
    | .answer => .answer
  ⟨operation, platformOf w.operation w.platform, w.context⟩

/-- The record of a plan. -/
def toWire (p : Plan) : PlanWire :=
  let steps := match p.operation with
    | .automate steps => steps.map Instruction.toJson
    | _ => []
  let url := match p.operation with
    | .browse url => url
    | _ => none
  ⟨p.kind.name, p.platform, steps, p.context, url⟩

end Plan

end Errand
