import DebugBridge.Text.Printable
/-!
# Quoted text and quoted bytes

How a message quotes a piece of text or a byte string. Text goes between single quotes, or
double quotes when it holds a single quote and no double quote; the backslash, the chosen
quote, tab, newline and carriage return are escaped, and characters that do not print
(`isHidden`) are written by their code in hex. A byte string is written the same way
after a `b`, with every byte outside printable ASCII in hex.
-/

namespace DebugBridge.Text

set_option autoImplicit false

def hexByte (n : Nat) : String :=
  let d (k : Nat) : Char := if k < 10 then Char.ofNat (48 + k) else Char.ofNat (87 + k)
  String.ofList [d ((n / 16) % 16), d (n % 16)]

def hexPadded (n width : Nat) : String :=
  let s := String.ofList (Nat.toDigits 16 n)
  String.ofList (List.replicate (width - s.length) '0') ++ s

/-- The quote that encloses a text: a double quote only when the text holds a single quote
and no double quote. -/
def quoteFor (cs : List Char) : Char :=
  if cs.contains '\'' && !cs.contains '"' then '"' else '\''

def escapeChar (q : Char) (c : Char) : String :=
  if c == q || c == '\\' then String.ofList ['\\', c]
  else if c == '\t' then "\\t"
  else if c == '\n' then "\\n"
  else if c == '\r' then "\\r"
  else if isHidden c then
    let n := c.toNat
    if n < 0x100 then "\\x" ++ hexByte n
    else if n < 0x10000 then "\\u" ++ hexPadded n 4
    else "\\U" ++ hexPadded n 8
  else String.singleton c

def quoteText (s : String) : String :=
  let q := quoteFor s.toList
  String.singleton q ++ String.join (s.toList.map (escapeChar q)) ++ String.singleton q

def escapeByte (q : Char) (b : UInt8) : String :=
  let n := b.toNat
  if n == q.toNat || n == 92 then String.ofList ['\\', Char.ofNat n]
  else if n == 9 then "\\t"
  else if n == 10 then "\\n"
  else if n == 13 then "\\r"
  else if n < 0x20 || n ≥ 0x7F then "\\x" ++ hexByte n
  else String.singleton (Char.ofNat n)

def quoteBytes (bs : List UInt8) : String :=
  let q := quoteFor (bs.map fun b => Char.ofNat b.toNat)
  "b" ++ String.singleton q ++ String.join (bs.map (escapeByte q)) ++ String.singleton q

end DebugBridge.Text

namespace DebugBridge.Text

def hexDigitValue (c : Char) : Option Nat :=
  if '0' ≤ c && c ≤ '9' then some (c.toNat - 48)
  else if 'a' ≤ c && c ≤ 'f' then some (c.toNat - 87)
  else if 'A' ≤ c && c ≤ 'F' then some (c.toNat - 55)
  else none

/-- The bytes that pairs of hex digits write; spaces between pairs are skipped. -/
def bytesOfHexChars : List Char → Option (List UInt8)
  | [] => some []
  | ' ' :: rest => bytesOfHexChars rest
  | a :: b :: rest => do
    let hi ← hexDigitValue a
    let lo ← hexDigitValue b
    let tail ← bytesOfHexChars rest
    pure ((hi * 16 + lo).toUInt8 :: tail)
  | [_] => none

def bytesOfHex (s : String) : Option (List UInt8) :=
  bytesOfHexChars s.toList

def hexOfBytes (bs : List UInt8) : String :=
  String.join (bs.map fun b => hexByte b.toNat)

end DebugBridge.Text
