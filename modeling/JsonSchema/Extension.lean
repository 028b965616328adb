import JsonSchema.Text.Pieces
import JsonSchema.Unicode.Case
/-!
# File extensions

A list of extensions is written with commas. Each entry is stripped of white space around it and of
the dots in front, and compared in lower case; entries with nothing left are dropped.
-/

namespace JsonSchema.Extension

open JsonSchema.Unicode (trim lowerFrom)

/-- One entry as it is compared. -/
def normal (piece : List Char) : List Char := lowerFrom [] ((trim piece).dropWhile (· = '.'))

/-- The extensions that a text lists. -/
def split (text : String) : List String :=
  (((Text.splitAt ',' text.toList).map normal).filter (!·.isEmpty)).map String.ofList

end JsonSchema.Extension
