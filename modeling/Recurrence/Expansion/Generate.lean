import Recurrence.Expansion.Projection
import Recurrence.Rule.Remarks

namespace Recurrence

/-- A rule that was read, with the projection of its occurrences. It is made before anything of the settings is
    needed. -/
structure Request where
  rule : Rule
  zone : Value
  projection : Projection

namespace Request

/-- The first stage: reads the rule, the reference time and the zone. -/
def read (zones : ZoneDatabase) (memory : ZoneMemory) (text zone clock : Value) :
    Reported (Except Fault (Option Request)) × ZoneMemory :=
  let remarks := Rule.zonedValueRemarks text
  match Rule.ofZonedValue text with
  | .error error => (⟨.error (.numeral error), remarks⟩, memory)
  | .ok none => (⟨.ok none, remarks⟩, memory)
  | .ok (some rule) =>
    let (made, memory) := Projection.makeWith zones memory zone clock
    match made.value with
    | .error error =>
      (⟨.ok none, remarks ++ made.notices ++ [.ruleNotExpanded zone error.message]⟩, memory)
    | .ok projection => (⟨.ok (some ⟨rule, zone, projection⟩), remarks ++ made.notices⟩, memory)

/-- The second stage: runs the rule. A fault with a wording is reported and gives no occurrences. -/
def answer (request : Request) (limits : Limits) : Reported (Except Fault (List String)) :=
  let result : Reported (Except Fault (List String)) :=
    match Plan.make request.rule none none limits with
    | .error fault => ⟨.error fault, []⟩
    | .ok plan => plan.project request.projection
  match result.value with
  | .ok _ => result
  | .error fault =>
    match fault.message? with
    | some message =>
      ⟨.ok [], result.notices ++ [.ruleNotExpanded request.zone message]⟩
    | none => result

end Request

/-- The occurrences of zoned rule text in written form, in a zone and at a reference time. -/
def generate (zones : ZoneDatabase) (text zone clock : Value) (limits : Limits) :
    Reported (Except Fault (List String)) :=
  let first := (Request.read zones {} text zone clock).1
  match first.value with
  | .error fault => ⟨.error fault, first.notices⟩
  | .ok none => ⟨.ok [], first.notices⟩
  | .ok (some request) =>
    let second := request.answer limits
    ⟨second.value, first.notices ++ second.notices⟩

end Recurrence
