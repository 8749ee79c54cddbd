import DebugBridge.Text.Blank
/-!
# Integer numerals in a given base

`readNumeral base s` reads an integer written in `base` (2 to 36): white space around it
(`isNumeralBlank`), an optional sign, for base 16 an optional `0x` or `0X`, then digits
that single underscores may separate (one may also follow the prefix). A decimal digit of
any script counts as its ASCII digit; letters above `9` must be ASCII. Anything else is no
numeral.
-/

namespace DebugBridge.Text

set_option autoImplicit false

def decimalZeros : List Nat :=
  [0x30, 0x660, 0x6F0, 0x7C0, 0x966, 0x9E6, 0xA66, 0xAE6, 0xB66, 0xBE6, 0xC66, 0xCE6, 0xD66,
   0xDE6, 0xE50, 0xED0, 0xF20, 0x1040, 0x1090, 0x17E0, 0x1810, 0x1946, 0x19D0, 0x1A80, 0x1A90,
   0x1B50, 0x1BB0, 0x1C40, 0x1C50, 0xA620, 0xA8D0, 0xA900, 0xA9D0, 0xA9F0, 0xAA50, 0xABF0,
   0xFF10, 0x104A0, 0x10D30, 0x11066, 0x110F0, 0x11136, 0x111D0, 0x112F0, 0x11450, 0x114D0,
   0x11650, 0x116C0, 0x11730, 0x118E0, 0x11950, 0x11C50, 0x11D50, 0x11DA0, 0x16A60, 0x16AC0,
   0x16B50, 0x1D7CE, 0x1D7D8, 0x1D7E2, 0x1D7EC, 0x1D7F6, 0x1E140, 0x1E2F0, 0x1E950, 0x1FBF0]

def decimalValue (c : Char) : Option Nat :=
  let n := c.toNat
  (decimalZeros.find? fun z => z ≤ n && n < z + 10).map fun z => n - z

/-- A character as the reader sees it: ASCII stays as it is, other blanks become a space,
decimal digits of every script their ASCII digit; `none` for any other character. -/
def normalizeNumeralChar (c : Char) : Option Char :=
  if c.toNat < 127 then some c
  else if isBlank c then some ' '
  else match decimalValue c with
    | some d => some (Char.ofNat (48 + d))
    | none => none

def digitValue (base : Nat) (c : Char) : Option Nat :=
  let v :=
    if '0' ≤ c && c ≤ '9' then some (c.toNat - 48)
    else if 'a' ≤ c && c ≤ 'z' then some (c.toNat - 87)
    else if 'A' ≤ c && c ≤ 'Z' then some (c.toNat - 55)
    else none
  v.bind fun d => if d < base then some d else none

/-- Reads digits separated by single underscores, accumulating onto `acc`; `afterDigit`
says whether the previous character was a digit (an underscore needs one on each side). -/
def readDigits (base : Nat) : List Char → Nat → Bool → Option Nat
  | [], acc, afterDigit => if afterDigit then some acc else none
  | '_' :: rest, acc, afterDigit =>
    if afterDigit then
      match rest with
      | c :: _ => if (digitValue base c).isSome then readDigits base rest acc false else none
      | [] => none
    else none
  | c :: rest, acc, _ =>
    match digitValue base c with
    | some d => readDigits base rest (acc * base + d) true
    | none => none

def dropHexPrefix : List Char → List Char
  | '0' :: 'x' :: '_' :: rest => rest
  | '0' :: 'X' :: '_' :: rest => rest
  | '0' :: 'x' :: rest => rest
  | '0' :: 'X' :: rest => rest
  | cs => cs

/-- The integer that `s` writes in `base`, if it is a numeral. -/
def readNumeral (base : Nat) (s : String) : Option Int := do
  let cs ← s.toList.mapM normalizeNumeralChar
  let body := ((cs.dropWhile isAsciiSpace).reverse.dropWhile isAsciiSpace).reverse
  let (negative, unsigned) :=
    match body with
    | '-' :: rest => (true, rest)
    | '+' :: rest => (false, rest)
    | rest => (false, rest)
  let digits := if base == 16 then dropHexPrefix unsigned else unsigned
  let n ← readDigits base digits 0 false
  pure (if negative then -(n : Int) else n)

end DebugBridge.Text
