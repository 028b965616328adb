/-!
# Styles of reports

The form in which results are reported, and how much is said.
-/

namespace JsonSchema.Report

inductive Format where
  | human
  | json
  | summary
deriving DecidableEq

namespace Format

def name : Format → String
  | human => "human"
  | json => "json"
  | summary => "summary"

/-- The format with this name. -/
def ofName? (s : String) : Option Format :=
  if s = "human" then some human
  else if s = "json" then some json
  else if s = "summary" then some summary
  else none

end Format

inductive Verbosity where
  /-- Failures only. -/
  | quiet
  /-- Files that are not valid, and a summary. -/
  | normal
  /-- Also how fast it went. -/
  | verbose
  /-- All files, and where the time went. -/
  | debug
deriving DecidableEq

namespace Verbosity

/-- The level that being quiet or a count of requests to say more asks for. -/
def ofFlags (quiet : Bool) (verbose : Nat) : Verbosity :=
  if quiet then .quiet
  else
    match verbose with
    | 0 => .normal
    | 1 => .verbose
    | _ => .debug

end Verbosity
end JsonSchema.Report
