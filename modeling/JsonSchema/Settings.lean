import JsonSchema.Report.Style
/-!
# Settings

What a user can choose about a run, wherever the choice comes from.
-/

namespace JsonSchema

structure Settings.Validation where
  /-- How many files are validated at a time. -/
  threads : Option Nat := none
  /-- Whether the first failure ends the run. -/
  failFast : Bool := false
deriving DecidableEq

structure Settings.Output where
  format : Report.Format := .human
  verbose : Nat := 0
  quiet : Bool := false
deriving DecidableEq

structure Settings.Files where
  extensions : List String := ["json"]
  includePatterns : List String := []
  excludePatterns : List String := []
  maxDepth : Option Nat := none
  followLinks : Bool := false
deriving DecidableEq

structure Settings where
  validation : Settings.Validation := {}
  output : Settings.Output := {}
  files : Settings.Files := {}
deriving DecidableEq

namespace Settings

def verbosity (s : Settings) : Report.Verbosity := .ofFlags s.output.quiet s.output.verbose

end Settings
end JsonSchema
