import JsonSchema.Fault
import JsonSchema.Note
import JsonSchema.Validation.Problem

/-!
# Traces of checks

A check reports violations, makes notes and may meet a fault. Its trace keeps all of them in order,
so traces of checks in a row are appended. A fault ends a check: what stands after the first one
does not count, and there is no list of violations then.
-/

namespace JsonSchema

/-- What happens in a check. -/
inductive Event where
  | violation (violation : Violation)
  | note (note : Note)
  | fault (fault : Fault)

/-- What happens in a check, in order. -/
abbrev Trace := List Event

namespace Event

/-- The violation of an event. -/
def violation? : Event → Option Violation
  | .violation found => some found
  | _ => none

/-- The note of an event. -/
def note? : Event → Option Note
  | .note made => some made
  | _ => none

/-- The fault of an event. -/
def fault? : Event → Option Fault
  | .fault met => some met
  | _ => none

/-- The event as seen from a value that holds the checked one under a segment. -/
def under (segment : String) : Event → Event
  | .violation found => .violation (found.under segment)
  | event => event

/-- Whether an event is no violation. -/
def isSilent : Event → Bool
  | .violation _ => false
  | _ => true

end Event

namespace Trace

/-- A problem of the checked value itself. -/
def problem (problem : Problem) : Event := .violation ⟨[], problem⟩

/-- A trace with one problem, if a condition holds. -/
def problemIf (condition : Bool) (found : Problem) : Trace := if condition then [problem found] else []

/-- The violations of a trace. -/
def violations (trace : Trace) : List Violation := trace.filterMap Event.violation?

/-- The first fault of a trace. -/
def fault? (trace : Trace) : Option Fault := trace.findSome? Event.fault?

/-- The notes made before the first fault. -/
def notes (trace : Trace) : List Note :=
  (trace.takeWhile fun event => event.fault?.isNone).filterMap Event.note?

/-- The result of a check. -/
def result (trace : Trace) : Except Fault (List Violation) :=
  match trace.fault? with
  | some fault => .error fault
  | none => .ok trace.violations

/-- Whether a check found nothing. -/
def accepts (trace : Trace) : Bool := trace.violations.isEmpty

/-- The trace as seen from a value that holds the checked one under a segment. -/
def under (segment : String) (trace : Trace) : Trace := trace.map (·.under segment)

/-- The trace without its violations. -/
def silent (trace : Trace) : Trace := trace.filter Event.isSilent

end Trace

end JsonSchema
