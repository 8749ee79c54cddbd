import DebugBridge.Value.Double
import DebugBridge.Text.Numeral
/-!
# Reading decimal text as a binary64 value

`readDouble` reads text as a decimal literal is read. Characters outside ASCII are first
normalised as in a numeral (`Text.normalizeNumeralChar`): blanks become spaces and decimal
digits of any script their ASCII digit. Underscores must stand between two digits and are
then dropped, white space around the text is ignored, and what remains is an optional sign
followed by `inf`, `infinity` or `nan` in any case, or by digits with an optional point and
fraction (at least one digit in all) and an optional exponent. The value is the binary64
nearest to the decimal, ties to even.
-/

namespace DebugBridge.Decimal

set_option autoImplicit false

/-- `cs` without its underscores, each of which must follow a digit and precede one;
`prev` is the character before `cs`. -/
def dropUnderscores : Char → List Char → Option (List Char)
  | prev, [] => if prev == '_' then none else some []
  | prev, c :: rest =>
    if c == '_' then
      if prev.isDigit then dropUnderscores c rest else none
    else if prev == '_' && !c.isDigit then none
    else (c :: ·) <$> dropUnderscores c rest

def digitsValue (ds : List Char) : Nat :=
  ds.foldl (fun acc c => acc * 10 + (c.toNat - 48)) 0

def readExponent : List Char → Option Int
  | [] => some 0
  | c :: rest =>
    if c == 'e' || c == 'E' then
      let (negative, body) := match rest with
        | '-' :: b => (true, b)
        | '+' :: b => (false, b)
        | b => (false, b)
      let (ds, tail) := body.span Char.isDigit
      if ds.isEmpty || !tail.isEmpty then none
      else
        let n : Int := digitsValue ds
        some (if negative then -n else n)
    else none

/-- The binary64 value that the decimal text `s` writes, if it writes one. -/
def readDouble (s : String) : Option Double := do
  let normal ← s.toList.mapM Text.normalizeNumeralChar
  let plain ← dropUnderscores '\x00' normal
  let t := ((plain.dropWhile Text.isAsciiSpace).reverse.dropWhile Text.isAsciiSpace).reverse
  let (negative, body) := match t with
    | '-' :: b => (true, b)
    | '+' :: b => (false, b)
    | b => (false, b)
  let word := (String.ofList body).toLower
  let sign (x : Double) : Double := if negative then x.neg else x
  if word == "inf" || word == "infinity" then
    return sign (Double.ofFloat (1.0 / 0.0))
  if word == "nan" then
    return sign (Double.ofFloat (0.0 / 0.0))
  let (whole, afterWhole) := body.span Char.isDigit
  let (fraction, afterFraction) := match afterWhole with
    | '.' :: more => more.span Char.isDigit
    | other => ([], other)
  if whole.isEmpty && fraction.isEmpty then none
  let exponent ← readExponent afterFraction
  let mantissa := digitsValue (whole ++ fraction)
  let scale := exponent - fraction.length
  let size : Int := whole.length + fraction.length
  if mantissa == 0 then return sign (Double.ofScientific 0 0)
  if scale > 400 then return sign (Double.ofFloat (1.0 / 0.0))
  if scale + size < -400 then return sign (Double.ofScientific 0 0)
  pure (sign (Double.ofScientific mantissa scale))

end DebugBridge.Decimal
