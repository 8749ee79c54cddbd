/-!
# Shortest decimal digits of a binary64 value

A finite binary64 value stands for every real that rounds to it, to nearest with ties to
even. `Binary.shortest` picks among the decimals in that interval one with the fewest
significant digits, the nearer of two, an exact tie to the even digit string, all in exact
`Nat` arithmetic on the bits. `Layout` then places the digits, positionally while the point
stays near them and in exponent form otherwise.
-/

namespace DebugBridge.Decimal

set_option autoImplicit false

/-- A finite non-negative binary64 value, `m * 2^q`. -/
structure Binary where
  m : Nat
  q : Int
  /-- The gap to the value below is half the gap to the value above. -/
  narrowBelow : Bool
  deriving Repr

def Binary.ofBits (b : UInt64) : Binary :=
  let e := ((b >>> 52) &&& 0x7FF).toNat
  let f := (b &&& 0xFFFFFFFFFFFFF).toNat
  if e == 0 then ⟨f, -1074, false⟩ else ⟨Nat.pow 2 52 + f, (e : Int) - 1075, f == 0 && e > 1⟩

structure Dec where
  digits : Nat
  exp : Int
  deriving Repr, DecidableEq

def cmpScaled (a : Nat) (i : Int) (n : Nat) (j : Int) : Ordering :=
  compare (a * Nat.pow 10 i.toNat * Nat.pow 2 (-j).toNat)
    (n * Nat.pow 2 j.toNat * Nat.pow 10 (-i).toNat)

/-- The decimal `d` lies among the reals that round to `x` (to nearest, ties to even). -/
def Binary.readsBack (x : Binary) (d : Dec) : Bool :=
  let lo := if x.narrowBelow then 4 * x.m - 1 else 4 * x.m - 2
  let hi := 4 * x.m + 2
  let incl := x.m % 2 == 0
  let cl := cmpScaled d.digits d.exp lo (x.q - 2)
  let ch := cmpScaled d.digits d.exp hi (x.q - 2)
  (cl == .gt || (incl && cl == .eq)) && (ch == .lt || (incl && ch == .eq))

def Binary.below (x : Binary) (k : Int) : Bool :=
  cmpScaled 1 k x.m x.q == .gt

def Binary.scaleGuess (x : Binary) : Int :=
  let bits : Int := (Nat.log2 x.m : Int) + 1 + x.q
  (bits * 30103) / 100000

/-- The least `k` with `x < 10^k`, for `x ≠ 0`: the guess is off by at most one, and the
window around it is searched exactly. -/
def Binary.scale (x : Binary) : Int :=
  let g := x.scaleGuess
  let window : List Int := [g - 3, g - 2, g - 1, g, g + 1, g + 2, g + 3]
  match window.find? (fun k => x.below k && !x.below (k - 1)) with
  | some k => k
  | none => g

def Binary.floorAt (x : Binary) (e : Int) : Nat :=
  (x.m * Nat.pow 2 x.q.toNat * Nat.pow 10 (-e).toNat) /
    (Nat.pow 2 (-x.q).toNat * Nat.pow 10 e.toNat)

def Binary.exact (x : Binary) : Dec :=
  if x.q < 0 then ⟨x.m * Nat.pow 5 (-x.q).toNat, x.q⟩ else ⟨x.m * Nat.pow 2 x.q.toNat, 0⟩

/-- Of the two neighbours `c` and `c + 1` of `x` on the grid `10^e`, the one a reader
of the digits should get, if either lies in the interval of `x`. -/
def Binary.pick (x : Binary) (e : Int) : Option Dec :=
  let c := x.floorAt e
  let lower : Dec := ⟨c, e⟩
  let upper : Dec := ⟨c + 1, e⟩
  match x.readsBack lower, x.readsBack upper with
  | true, true =>
    -- twice the value against the sum of the two neighbours
    match cmpScaled (2 * c + 1) e (2 * x.m) x.q with
    | .gt => some lower
    | .lt => some upper
    | .eq => some (if c % 2 == 0 then lower else upper)
  | true, false => some lower
  | false, true => some upper
  | false, false => none

def Dec.trim (d : Dec) : Dec :=
  if h : d.digits ≠ 0 ∧ d.digits % 10 = 0 then
    Dec.trim ⟨d.digits / 10, d.exp + 1⟩
  else d
termination_by d.digits
decreasing_by
  show d.digits / 10 < d.digits
  omega

/-- The fewest significant digits that read back as `x`, nearest first, ties to even.
Zero has no digits to search and is `0 * 10^0`. -/
def Binary.shortest (x : Binary) : Dec :=
  if x.m = 0 then ⟨0, 0⟩ else
  let k := x.scale
  let grids := (List.range 17).map fun (n : Nat) => k - ((n : Int) + 1)
  match grids.findSome? x.pick with
  | some d => d.trim
  | none => x.exact.trim

/-- The conventions of one output format for placing shortest digits. -/
structure Layout where
  /-- Exponent form when the point would stand this many places or more before the first digit. -/
  leadingZerosMax : Nat
  /-- Exponent form when the point would stand after more than this many digits. -/
  integerDigitsMax : Nat
  /-- A whole number keeps a point and a zero. -/
  pointZero : Bool
  /-- The least number of exponent digits. -/
  exponentWidth : Nat
  /-- The sign of a non-negative exponent is written. -/
  exponentPlus : Bool
  nanText : String
  infinityText : String

def padded (n : Nat) (width : Nat) : String :=
  let s := toString n
  String.ofList (List.replicate (width - s.length) '0') ++ s

/-- Writes `0.d₁d₂… × 10^point` (`point` counts the places of the point after the first
digit's position) in the layout's form. -/
def Layout.place (l : Layout) (digits : String) (point : Int) : String :=
  let n := digits.length
  if point ≤ -(l.leadingZerosMax : Int) || point > (l.integerDigitsMax : Int) then
    let e := point - 1
    let mantissa :=
      if n ≤ 1 then digits else String.ofList (digits.toList.take 1) ++ "." ++ String.ofList (digits.toList.drop 1)
    let sign := if e < 0 then "-" else if l.exponentPlus then "+" else ""
    mantissa ++ "e" ++ sign ++ padded e.natAbs l.exponentWidth
  else if point ≤ 0 then
    "0." ++ String.ofList (List.replicate point.natAbs '0') ++ digits
  else if point.toNat ≥ n then
    digits ++ String.ofList (List.replicate (point.toNat - n) '0') ++ (if l.pointZero then ".0" else "")
  else
    String.ofList (digits.toList.take point.toNat) ++ "." ++ String.ofList (digits.toList.drop point.toNat)

def Layout.render (l : Layout) (b : UInt64) : String :=
  let negative := b >>> 63 == 1
  let e := ((b >>> 52) &&& 0x7FF).toNat
  let f := (b &&& 0xFFFFFFFFFFFFF).toNat
  if e == 0x7FF then
    if f != 0 then l.nanText else (if negative then "-" else "") ++ l.infinityText
  else
    let sign := if negative then "-" else ""
    let d := (Binary.ofBits b).shortest
    if d.digits = 0 then
      sign ++ (if l.pointZero then "0.0" else "0")
    else
      let digits := toString d.digits
      sign ++ l.place digits (d.exp + digits.length)

end DebugBridge.Decimal
