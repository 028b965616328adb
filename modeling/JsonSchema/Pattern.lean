import JsonSchema.Pattern.Reader
/-!
# Patterns

A pattern is a regular expression with the text that writes it. It matches a string when the
expression matches some part of it.
-/

namespace JsonSchema

structure Pattern where
  source : String
  regex : Pattern.Regex

namespace Pattern

/-- The pattern that a text writes. -/
def compile? (source : String) : Option Pattern := (Regex.read? source).map (⟨source, ·⟩)

def isMatch (p : Pattern) (s : String) : Bool := p.regex.matchesIn s.toList

theorem source_of_compile? {s : String} {p : Pattern} (h : compile? s = some p) :
    p.source = s := by
  obtain ⟨r, _, rfl⟩ := Option.map_eq_some_iff.1 h
  rfl

end Pattern
end JsonSchema
