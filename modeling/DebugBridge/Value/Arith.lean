import DebugBridge.Fault
import DebugBridge.Text.Numeral
/-!
# Arithmetic on values

The number operations the adapters apply to replies and arguments, each defined on the
kinds of values it accepts and failing with the fault that names the kinds it got
otherwise. A boolean counts as the integer 0 or 1 throughout. Integers are unbounded and
bitwise operations read them in two's complement, so a negative integer has infinitely
many leading ones. An integer meets a binary64 value by being rounded to the nearest one.
-/

namespace DebugBridge

set_option autoImplicit false

namespace Value

def orInt (a b : Int) : Int :=
  match a, b with
  | .ofNat x, .ofNat y => .ofNat (x ||| y)
  | .ofNat x, .negSucc y => .negSucc (y - (y &&& x))
  | .negSucc x, .ofNat y => .negSucc (x - (x &&& y))
  | .negSucc x, .negSucc y => .negSucc (x &&& y)

def hexText (n : Int) : String :=
  (if n < 0 then "-" else "") ++ String.ofList (Nat.toDigits 16 n.natAbs)

def hexDigits (v : Value) : Except Fault String :=
  match v.asInt? with
  | some n => .ok (hexText n)
  | Option.none => .error (.hexOfNonInteger v.kindName)

def hexLiteral (v : Value) : Except Fault String :=
  match v.asInt? with
  | some n => .ok ((if n < 0 then "-0x" else "0x") ++ String.ofList (Nat.toDigits 16 n.natAbs))
  | Option.none => .error (.notAnIndex v.kindName)

/-- The integer a value stands for where a count or a bound is needed: integers and
booleans only. -/
def toIndex (v : Value) : Except Fault Int :=
  match v.asInt? with
  | some n => .ok n
  | Option.none => .error (.notAnIndex v.kindName)

def toDouble (n : Int) : Except Fault Double :=
  let x := Double.ofInt n
  if x.isInfinite then .error .intTooLarge else .ok x

def bitOr (a b : Value) : Except Fault Value :=
  match a, b with
  | .bool x, .bool y => .ok (.bool (x || y))
  | _, _ => match a.asInt?, b.asInt? with
    | some x, some y => .ok (.int (orInt x y))
    | _, _ => .error (.badOperands "|" a.kindName b.kindName)

def shiftLeft (a b : Value) : Except Fault Value :=
  match a.asInt?, b.asInt? with
  | some x, some y => .ok (.int (x * Int.pow 2 y.toNat))
  | _, _ => .error (.badOperands "<<" a.kindName b.kindName)

/-- The sum of two numbers, when both are numbers: an integer for two integers, else a
binary64 value. -/
def numericSum (a b : Value) : Option (Except Fault Value) :=
  match a, b with
  | .float x, .float y => some (.ok (.float (x.add y)))
  | .float x, _ => b.asInt?.map fun n => do let y ← toDouble n; pure (.float (x.add y))
  | _, .float y => a.asInt?.map fun n => do let x ← toDouble n; pure (.float (x.add y))
  | _, _ => match a.asInt?, b.asInt? with
    | some x, some y => some (.ok (.int (x + y)))
    | _, _ => Option.none

/-- Sum of numbers, or the join of two texts, lists, tuples or byte strings. When the
operands are not two numbers, the left one decides: a sequence joins only its own kind and
names both kinds when it cannot. -/
def add (a b : Value) : Except Fault Value :=
  match numericSum a b with
  | some r => r
  | Option.none =>
    match a, b with
    | .str x, .str y => .ok (.str (x ++ y))
    | .str _, _ => .error (.badConcat "str" b.kindName)
    | .list xs, .list ys => .ok (.list (xs ++ ys))
    | .list _, _ => .error (.badConcat "list" b.kindName)
    | .tuple xs, .tuple ys => .ok (.tuple (xs ++ ys))
    | .tuple _, _ => .error (.badConcat "tuple" b.kindName)
    | _, _ => match a.asBytes?, b.asBytes? with
      | some x, some y => .ok (.bytes (x ++ y))
      | some _, Option.none => .error (.bytesConcat b.kindName a.kindName)
      | _, _ => .error (.badOperands "+" a.kindName b.kindName)

def sub (a b : Value) : Except Fault Value :=
  match a, b with
  | .float x, .float y => .ok (.float (x.sub y))
  | .float x, _ => match b.asInt? with
    | some n => do let y ← toDouble n; pure (.float (x.sub y))
    | Option.none => .error (.badOperands "-" a.kindName b.kindName)
  | _, .float y => match a.asInt? with
    | some n => do let x ← toDouble n; pure (.float (x.sub y))
    | Option.none => .error (.badOperands "-" a.kindName b.kindName)
  | _, _ => match a.asInt?, b.asInt? with
    | some x, some y => .ok (.int (x - y))
    | _, _ => .error (.badOperands "-" a.kindName b.kindName)

/-- `a > b` for numbers, exactly, and for texts in code point order; a NaN is greater than
nothing. -/
def greater (a b : Value) : Except Fault Bool :=
  match a, b with
  | .float x, .float y => .ok (y.lt x)
  | .float x, _ => match b.asInt? with
    | some n => .ok (x.compareInt n == some .gt)
    | Option.none => .error (.unordered ">" a.kindName b.kindName)
  | _, .float y => match a.asInt? with
    | some n => .ok (y.compareInt n == some .lt)
    | Option.none => .error (.unordered ">" a.kindName b.kindName)
  | .str x, .str y => .ok (decide (y < x))
  | _, _ => match a.asInt?, b.asInt? with
    | some x, some y => .ok (decide (y < x))
    | _, _ => .error (.unordered ">" a.kindName b.kindName)

/-- The integer a value stands for: integers as they are, binary64 values toward zero,
text as a decimal numeral. -/
def toInt (v : Value) : Except Fault Int :=
  match v with
  | .float x =>
    if x.isNaN then .error .nanToInteger
    else if x.isInfinite then .error .infinityToInteger
    else .ok x.truncate
  | .str s => match Text.readNumeral 10 s with
    | some n => .ok n
    | Option.none => .error (.badNumeral 10 s)
  | _ => match v.asInt? with
    | some n => .ok n
    | Option.none => .error (.notANumber v.kindName)

def byteOf (v : Value) : Except Fault UInt8 :=
  match v.asInt? with
  | some n => if 0 ≤ n && n < 256 then .ok n.toNat.toUInt8 else .error .byteOutOfRange
  | Option.none => .error (.notAnIndex v.kindName)

/-- The byte string a value makes: a count of zero bytes from an integer, the bytes of a
byte string, the elements of a list or tuple read as bytes, the keys of a table likewise. -/
def toBytes (v : Value) : Except Fault (List UInt8) :=
  match v with
  | .str _ => .error .textWithoutEncoding
  | .bytes b | .byteString b => .ok b
  | .list xs | .tuple xs => xs.mapM byteOf
  | .dict es => es.mapM fun e => byteOf (.str e.1)
  | _ => match v.asInt? with
    | some n =>
      if n < -Int.pow 2 63 || n ≥ Int.pow 2 63 then .error .sizeOverflow
      else if n < 0 then .error .negativeCount
      else .ok (List.replicate n.toNat 0)
    | Option.none => .error (.notBytes v.kindName)

def length (v : Value) : Except Fault Nat :=
  match v with
  | .str s => .ok s.length
  | .bytes b | .byteString b => .ok b.length
  | .list xs | .tuple xs => .ok xs.length
  | .dict es => .ok es.length
  | _ => .error (.noLength v.kindName)

end Value

end DebugBridge
