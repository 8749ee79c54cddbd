import DebugBridge.Decimal.Shortest
/-!
# Binary64 values held by their bits

A `Double` is a binary64 value kept as its 64 bits, so that values can be compared and
stored without floating-point equality. Comparisons with integers are exact: the value is
decoded into `m * 2^q` and cross-multiplied, so a large integer is never rounded first.
Sums and differences go through the hardware operations and round as binary64 does.
-/

namespace DebugBridge

set_option autoImplicit false

/-- A binary64 value, by its bits. -/
structure Double where
  bits : UInt64
  deriving DecidableEq, Repr, Inhabited

namespace Double

def ofFloat (x : Float) : Double := ⟨x.toBits⟩

def toFloat (x : Double) : Float := Float.ofBits x.bits

def negative (x : Double) : Bool := x.bits >>> 63 == 1

def exponentField (x : Double) : Nat := ((x.bits >>> 52) &&& 0x7FF).toNat

def fractionField (x : Double) : Nat := (x.bits &&& 0xFFFFFFFFFFFFF).toNat

def isNaN (x : Double) : Bool := x.exponentField == 0x7FF && x.fractionField != 0

def isInfinite (x : Double) : Bool := x.exponentField == 0x7FF && x.fractionField == 0

def magnitude (x : Double) : Decimal.Binary := Decimal.Binary.ofBits x.bits

def isZero (x : Double) : Bool := x.exponentField == 0 && x.fractionField == 0

def compareMagnitude (b : Decimal.Binary) (n : Nat) : Ordering :=
  compare (b.m * Nat.pow 2 b.q.toNat) (n * Nat.pow 2 (-b.q).toNat)

/-- Exact order between the value and an integer; `none` for NaN, which is unordered. -/
def compareInt (x : Double) (n : Int) : Option Ordering :=
  if x.isNaN then none
  else if x.isInfinite then some (if x.negative then .lt else .gt)
  else if x.isZero then some (compare 0 n)
  else if x.negative then
    if n ≥ 0 then some .lt else some (compareMagnitude x.magnitude n.natAbs).swap
  else
    if n ≤ 0 then some .gt else some (compareMagnitude x.magnitude n.natAbs)

def equalsInt (x : Double) (n : Int) : Bool := x.compareInt n == some .eq

def truncate (x : Double) : Int :=
  let b := x.magnitude
  let n : Nat := (b.m * Nat.pow 2 b.q.toNat) / Nat.pow 2 (-b.q).toNat
  if x.negative then -(n : Int) else n

/-- The nearest binary64 value to an integer, ties to even; infinite when it is out of range. -/
def ofInt (n : Int) : Double := ofFloat (Float.ofInt n)

def add (x y : Double) : Double := ofFloat (x.toFloat + y.toFloat)

def sub (x y : Double) : Double := ofFloat (x.toFloat - y.toFloat)

/-- Equality of values: `0.0` equals `-0.0`, a NaN equals nothing. -/
def same (x y : Double) : Bool := x.toFloat == y.toFloat

def lt (x y : Double) : Bool := x.toFloat < y.toFloat

def ofScientific (mantissa : Nat) (exponent : Int) : Double :=
  if exponent < 0 then ofFloat (Float.ofScientific mantissa true exponent.natAbs)
  else ofFloat (Float.ofScientific mantissa false exponent.natAbs)

def neg (x : Double) : Double := ⟨x.bits ^^^ 0x8000000000000000⟩

end Double

end DebugBridge
