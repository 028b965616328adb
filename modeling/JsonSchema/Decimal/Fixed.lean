import JsonSchema.Binary64
/-!
# Decimals with a fixed number of places
-/

namespace JsonSchema.Decimal

/-- A text with zeros in front, up to a width. -/
def padded (width : Nat) (s : String) : String :=
  String.ofList (List.replicate (width - s.length) '0') ++ s

/-- A number of `10 ^ -places`, written with the point. -/
def placed (places n : Nat) : String :=
  let whole := toString (n / Nat.pow 10 places)
  if places = 0 then whole else whole ++ "." ++ padded places (toString (n % Nat.pow 10 places))

/-- The exact value rounded to a number of places, a half to the even neighbour. -/
def fixed (places : Nat) (x : Binary64) : String :=
  if x.isNaN then "NaN"
  else
    (if x.negative then "-" else "") ++
      if x.isInfinite then "inf"
      else placed places (Binary64.roundHalfEven (x.magnitude * Nat.pow 10 places) Binary64.one)

end JsonSchema.Decimal
