import JsonSchema.Validation.Problem

/-!
# Summaries

A summary names the command that asked for it, if any, tells how many violations there are, and gives
each of them a line. There is none where a violation has no wording.
-/

namespace JsonSchema.Summary

/-- The line of a violation. -/
def line (violation : Violation) : Except Fault String := do
  return "  " ++ (← violation.message) ++ "\n"

/-- The line that tells how many violations there are. -/
def tally (subject : String) (violations : List Violation) : String :=
  match violations with
  | [] => subject ++ ": valid\n"
  | [_] => subject ++ ": 1 error\n"
  | _ => subject ++ ": " ++ toString violations.length ++ " errors\n"

/-- The line of a command; an empty command has none. -/
def header (command : Option String) : String :=
  match command with
  | some command => if command = "" then "" else "# " ++ command ++ "\n"
  | none => ""

/-- The summary of the violations found in a subject. -/
def text (violations : List Violation) (subject : String) (command : Option String) :
    Except Fault String := do
  return header command ++ tally subject violations ++ String.join (← violations.mapM line)

end JsonSchema.Summary
