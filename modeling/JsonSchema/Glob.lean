import JsonSchema.Glob.Reader
/-!
# Globs

A glob matches whole paths. A star stays within a name, two stars reach across directories, and two
stars alone match every path.
-/

namespace JsonSchema

structure Glob where
  regex : Pattern.Regex

namespace Glob

/-- The expression that a glob with these parts stands for. -/
def wholeRegex : List Part → Pattern.Regex
  | [.front] => anything
  | parts => regexOf parts

/-- The glob that a text writes. -/
def read? (text : String) (lenient : Bool := false) : Except Fault Glob :=
  (readParts lenient text.toList).map fun parts =>
    ⟨.seq (.look .textStart) (.seq (wholeRegex parts) (.look .textEnd))⟩

def isMatch (g : Glob) (path : String) : Bool := g.regex.matchesIn (byteChars path.toList)

end Glob
end JsonSchema
