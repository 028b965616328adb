import JsonSchema.Format.DateTime
import JsonSchema.Format.Host
import JsonSchema.Format.Uri
/-!
# Formats

The named formats that the keyword `format` knows.
-/

namespace JsonSchema

/-- A named format of strings. -/
inductive Format where
  | dateTime
  | email
  | hostname
  | ipv4
  | ipv6
  | uri
deriving DecidableEq

namespace Format

def all : List Format := [dateTime, email, hostname, ipv4, ipv6, uri]

def name : Format → String
  | dateTime => "date-time"
  | email => "email"
  | hostname => "hostname"
  | ipv4 => "ipv4"
  | ipv6 => "ipv6"
  | uri => "uri"

def ofName? (s : String) : Option Format := all.find? fun f => f.name == s

/-- Host names and email addresses have at most this many bytes. -/
def nameLimit : Nat := 255

/-- Whether a text has the format. -/
def isValid (f : Format) (s : String) : Bool :=
  match f with
  | dateTime => isDateTime s.toList
  | email => s.utf8ByteSize ≤ nameLimit && isEmail s.toList
  | hostname => s.utf8ByteSize ≤ nameLimit && isHost s.toList
  | ipv4 => isIPv4 s.toList
  | ipv6 => isIPv6 s.toList
  | uri => isUri s.toList

end Format
end JsonSchema
