import DebugBridge.Value.Basic
import DebugBridge.Text.Quoted
/-!
# The text of a value

Two printers: `Value.render` writes a value as a message shows it when the value stands by
itself, and `Value.quote` as it appears inside a collection or as a key, where text and
byte strings carry quotes. They agree on everything except text, which `render` writes
bare. Numbers are written in decimal; a binary64 value with its shortest digits in
`Value.floatLayout`. An integer longer than `decimalDigitsMax` digits cannot be written in
decimal; `textFits` tells whether a value's text writes none.
-/

namespace DebugBridge

set_option autoImplicit false

namespace Value

/-- How binary64 values are written: positional while the point stands at most sixteen
places after the first digit or fewer than four zeros before it, a whole number ends in
`.0`, and an exponent has a sign and at least two digits. -/
def floatLayout : Decimal.Layout :=
  { leadingZerosMax := 4, integerDigitsMax := 16, pointZero := true, exponentWidth := 2,
    exponentPlus := true, nanText := "nan", infinityText := "inf" }

def floatText (x : Double) : String := floatLayout.render x.bits

def intText (n : Int) : String :=
  if n < 0 then "-" ++ toString n.natAbs else toString n.natAbs

/-- The most decimal digits an integer is written with; a longer integer has no decimal
text. Hex text has no such limit. -/
def decimalDigitsMax : Nat := 4300

def decimalFits (n : Int) : Bool := n.natAbs < Nat.pow 10 decimalDigitsMax

def tupleText (items : List String) : String :=
  match items with
  | [one] => "(" ++ one ++ ",)"
  | _ => "(" ++ ", ".intercalate items ++ ")"

mutual

def quote : Value → String
  | .none => "None"
  | .bool b => if b then "True" else "False"
  | .int n => intText n
  | .float x => floatText x
  | .str s => Text.quoteText s
  | .bytes b => Text.quoteBytes b
  | .byteString b => Text.quoteBytes b
  | .list xs => "[" ++ ", ".intercalate (quoteList xs) ++ "]"
  | .tuple xs => tupleText (quoteList xs)
  | .dict es => "\x7b" ++ ", ".intercalate (quoteEntries es) ++ "\x7d"
  | .record fs => "namespace(" ++ ", ".intercalate (quoteFields fs) ++ ")"
  | .region .. => "<MemoryMap object>"
  | .handle k => "<" ++ k ++ " object>"
  | .kindRef n => "<class '" ++ n ++ "'>"

def quoteList : List Value → List String
  | [] => []
  | x :: xs => quote x :: quoteList xs

def quoteEntries : List (String × Value) → List String
  | [] => []
  | (k, v) :: rest => (Text.quoteText k ++ ": " ++ quote v) :: quoteEntries rest

/-- The fields of a record as its text lists them, in their order: a field without a name
is left out. -/
def quoteFields : List (String × Value) → List String
  | [] => []
  | (k, v) :: rest =>
    if k.isEmpty then quoteFields rest else (k ++ "=" ++ quote v) :: quoteFields rest

end

mutual

/-- Whether every integer that the text of a value writes in decimal fits within
`decimalDigitsMax`: the value itself, the elements of a sequence, the values of a table
and the named fields of a record, which are all that text writes. -/
def textFits : Value → Bool
  | .int n => decimalFits n
  | .list xs => listFits xs
  | .tuple xs => listFits xs
  | .dict es => entriesFit es
  | .record fs => fieldsFit fs
  | _ => true

def listFits : List Value → Bool
  | [] => true
  | x :: xs => textFits x && listFits xs

def entriesFit : List (String × Value) → Bool
  | [] => true
  | (_, v) :: rest => textFits v && entriesFit rest

def fieldsFit : List (String × Value) → Bool
  | [] => true
  | (k, v) :: rest => (k.isEmpty || textFits v) && fieldsFit rest

end

def render : Value → String
  | .str s => s
  | v => v.quote

@[simp] theorem render_str (s : String) : (Value.str s).render = s := rfl

@[simp] theorem render_int (n : Int) : (Value.int n).render = intText n := rfl

end Value

end DebugBridge
