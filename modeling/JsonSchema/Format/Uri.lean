import JsonSchema.Format.Address
/-!
# Uniform resource identifiers

The production `URI` of RFC 3986. Its parts are found by their delimiters, which cannot occur inside
the parts before them, and then checked one by one.
-/

namespace JsonSchema.Format

open JsonSchema.Text (splitFirst isHexDigit)

def isUnreserved (c : Char) : Bool := isAlphanumeric c || "-._~".toList.contains c

def isSubDelimiter (c : Char) : Bool := "!$&'()*+,;=".toList.contains c

/-- A character of a path segment. -/
def isPathChar (c : Char) : Bool := isUnreserved c || isSubDelimiter c || c == ':' || c == '@'

/-- Whether a text consists of allowed characters and percent-encoded bytes. -/
def isEncoded (allowed : Char → Bool) : List Char → Bool
  | [] => true
  | '%' :: a :: b :: r => isHexDigit a && isHexDigit b && isEncoded allowed r
  | c :: r => allowed c && isEncoded allowed r

/-- A letter followed by letters, digits and some signs. -/
def isScheme : List Char → Bool
  | [] => false
  | c :: r => c.isAlpha && r.all fun c => isAlphanumeric c || "+-.".toList.contains c

/-- A future version of address literals: its number in hexadecimal, and an address. -/
def isFutureAddress : List Char → Bool
  | 'v' :: r =>
    match splitFirst '.' r with
    | (version, some address) =>
      !version.isEmpty && version.all isHexDigit && !address.isEmpty &&
        address.all fun c => isUnreserved c || isSubDelimiter c || c == ':'
    | (_, none) => false
  | _ => false

/-- The part after a host: nothing, or a colon and digits. -/
def isPortSuffix : List Char → Bool
  | [] => true
  | c :: r => c == ':' && r.all Char.isDigit

/-- A host, which may be an address in brackets, with an optional port. -/
def isHostPort : List Char → Bool
  | '[' :: r =>
    match splitFirst ']' r with
    | (literal, some rest) => (isIPv6 literal || isFutureAddress literal) && isPortSuffix rest
    | (_, none) => false
  | cs =>
    match splitFirst ':' cs with
    | (name, port) =>
      isEncoded (fun c => isUnreserved c || isSubDelimiter c) name &&
        (port.getD []).all Char.isDigit

/-- User information before an `@`, if there is one, and a host. -/
def isAuthority (cs : List Char) : Bool :=
  match splitFirst '@' cs with
  | (user, some host) =>
    isEncoded (fun c => isUnreserved c || isSubDelimiter c || c == ':') user && isHostPort host
  | (_, none) => isHostPort cs

/-- Path segments with slashes between them. -/
def isPath (cs : List Char) : Bool := isEncoded (fun c => isPathChar c || c == '/') cs

/-- The part between scheme and query: an authority with a path, or a path whose first segment is
not empty. -/
def isHierarchy : List Char → Bool
  | '/' :: '/' :: r =>
    match splitFirst '/' r with
    | (authority, path) => isAuthority authority && isPath (path.getD [])
  | cs => isPath cs

/-- A query or a fragment. -/
def isQuery (cs : List Char) : Bool := isEncoded (fun c => isPathChar c || c == '/' || c == '?') cs

def isUri (cs : List Char) : Bool :=
  match splitFirst ':' cs with
  | (_, none) => false
  | (scheme, some rest) =>
    let (rest, fragment) := splitFirst '#' rest
    let (hierarchy, query) := splitFirst '?' rest
    isScheme scheme && isHierarchy hierarchy && isQuery (query.getD []) &&
      isQuery (fragment.getD [])

end JsonSchema.Format
