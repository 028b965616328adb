import JsonSchema.Glob
import JsonSchema.Unicode.Property
/-!
# Ignore rules

A line of an ignore file names files and directories that are passed over, or, after an exclamation
mark, that are kept all the same. Of several lines that match, the last decides.
-/

namespace JsonSchema.Ignore

structure Rule where
  glob : Glob
  /-- Whether what matches is kept. -/
  keeps : Bool
  directoriesOnly : Bool

/-- What is to be done with a file or directory. -/
inductive Verdict where
  | pass
  | keep
deriving DecidableEq

namespace Rule

/-- The text without white space at its end. -/
def trimEnd (cs : List Char) : List Char := (cs.reverse.dropWhile Unicode.isBlank).reverse

/-- The line without white space at its end, unless that is escaped. -/
def trimLine (cs : List Char) : List Char :=
  if ['\\', ' '].isSuffixOf cs then cs else trimEnd cs

/-- What a line says at its beginning. -/
structure Start where
  keeps : Bool
  /-- Whether a slash in front ties the rule to the directory of its file. -/
  tied : Bool
  rest : List Char

/-- Reads the marks at the beginning of a line. -/
def start (cs : List Char) : Start :=
  match cs with
  | '\\' :: '!' :: r => ⟨false, false, '!' :: r⟩
  | '\\' :: '#' :: r => ⟨false, false, '#' :: r⟩
  | '!' :: '/' :: r => ⟨true, true, r⟩
  | '!' :: r => ⟨true, false, r⟩
  | '/' :: r => ⟨false, true, r⟩
  | cs => ⟨false, false, cs⟩

/-- The text before a slash at the end, that may be escaped; whether there is one comes first. -/
def splitEnd (cs : List Char) : Bool × List Char :=
  match cs.reverse with
  | '/' :: '\\' :: r => (true, r.reverse)
  | '/' :: r => (true, r.reverse)
  | _ => (false, cs)

/-- The glob that a rule stands for. Without a slash inside it applies at any depth, and a pair of
stars at its end matches what is in a directory but not the directory. -/
def globText (tied : Bool) (cs : List Char) : List Char :=
  let anywhere := ['*', '*', '/']
  let cs :=
    if tied || cs.contains '/' || cs = ['*', '*'] then cs else anywhere ++ cs
  if ['/', '*', '*'].isSuffixOf cs then cs ++ ['/', '*'] else cs

/-- The rule of a line, if it holds one. -/
def read (line : List Char) : Except Glob.Fault (Option Rule) :=
  let cs := trimLine line
  if line.head? = some '#' || cs.isEmpty then .ok none
  else
    let s := start cs
    let (directoriesOnly, cs) := splitEnd s.rest
    (Glob.read? (String.ofList (globText s.tied cs)) true).map fun g =>
      some ⟨g, s.keeps, directoriesOnly⟩

/-- Whether the rule is about what lies at a path, relative to the directory of the rule. -/
def appliesTo (r : Rule) (path : String) (isDirectory : Bool) : Bool :=
  (isDirectory || !r.directoriesOnly) && r.glob.isMatch path

end Rule

/-- The rules of a file, in order, and whether a line of it is no rule. -/
structure Rules where
  rules : List Rule
  faulty : Bool

namespace Rules

def none : Rules := ⟨[], false⟩

/-- Adds the rule of a line. -/
def addLine (rs : Rules) (line : List Char) : Rules :=
  match Rule.read line with
  | .ok (some r) => { rs with rules := rs.rules ++ [r] }
  | .ok Option.none => rs
  | .error _ => { rs with faulty := true }

/-- The character that may mark a file as Unicode at its beginning. -/
def byteOrderMark : Char := '\ufeff'

/-- Lines as text, up to the first that is none. -/
def textLines (lines : List Bytes) : List (List Char) :=
  match lines with
  | [] => []
  | bs :: r =>
    match Utf8.decode bs with
    | .ok cs => cs :: textLines r
    | .error _ => []

/-- The pieces of bytes between line feeds, each with a carriage return in front or none. -/
def lines : Bytes → List Bytes
  | [] => [[]]
  | 0x0D :: 0x0A :: r => [] :: lines r
  | b :: r =>
    if b = 0x0A then [] :: lines r
    else
      match lines r with
      | [] => [[b]]
      | l :: ls => (b :: l) :: ls

/-- The rules that a file holds. -/
def ofBytes (bs : Bytes) : Rules :=
  match textLines (lines bs) with
  | [] => none
  | first :: rest => (first.dropWhile (· == byteOrderMark) :: rest).foldl addLine none

/-- What the rules say about a path relative to their directory, if they say anything. -/
def verdict? (rs : Rules) (path : String) (isDirectory : Bool) : Option Verdict :=
  (rs.rules.reverse.find? (·.appliesTo path isDirectory)).map fun r =>
    if r.keeps then .keep else .pass

end Rules
end JsonSchema.Ignore
