import DebugBridge.Fault
/-!
# Parameters and arguments

An operation declares its parameters in a `Signature`; `Signature.bind` matches the values
of a call against them. Every operation is called on a target (or a region being built),
which fills a first parameter `self` before anything else. Positional values fill the
parameters after it from the left, keyword values fill parameters by name, and the
parameters still empty take their defaults. The faults are checked in a fixed order:
keyword values first (an unknown name, a name already filled, `self` included), then the
count of positional values, then the parameters left without a value.
-/

namespace DebugBridge

set_option autoImplicit false

/-- The parameters of an operation, after the target it is called on. -/
structure Signature where
  /-- How messages name the operation. -/
  owner : String
  params : List String
  /-- Defaults for the last parameters, in order. -/
  defaults : List Value := []
  /-- Extra positional values are accepted. -/
  rest : Bool := false
  /-- Extra keyword values are accepted. -/
  options : Bool := false

structure Bound where
  /-- One value per parameter, in order. -/
  values : List Value
  /-- Positional values beyond the parameters. -/
  extra : List Value := []
  /-- Keyword values that name no parameter. -/
  options : List (String × Value) := []
  deriving Inhabited

namespace Signature

def slot (sig : Signature) (name : String) : Option Nat :=
  sig.params.findIdx? (· == name)

def fillKeywords (sig : Signature) :
    List (String × Value) → List (Option Value) → List (String × Value) →
      Except Fault (List (Option Value) × List (String × Value))
  | [], slots, extra => .ok (slots, extra)
  | (k, v) :: rest, slots, extra =>
    if k == "self" then .error (.repeatedArgument sig.owner k) else
    match sig.slot k with
    | some i =>
      if (slots.getD i Option.none).isSome then .error (.repeatedArgument sig.owner k)
      else fillKeywords sig rest (slots.set i (some v)) extra
    | Option.none =>
      if sig.options then fillKeywords sig rest slots (extra ++ [(k, v)])
      else .error (.unexpectedKeyword sig.owner k)

def complete (sig : Signature) (slots : List (Option Value)) : Except (List String) (List Value) :=
  let firstDefault := sig.params.length - sig.defaults.length
  let filled : List (Sum String Value) := (sig.params.zip slots).zipIdx.map fun ((name, slot), i) =>
    match slot with
    | some v => .inr v
    | Option.none =>
      if i ≥ firstDefault then .inr (sig.defaults.getD (i - firstDefault) .none) else .inl name
  let missing := filled.filterMap fun x => match x with
    | .inl name => some name
    | .inr _ => Option.none
  if missing.isEmpty then
    .ok (filled.filterMap fun x => match x with
      | .inr v => some v
      | .inl _ => Option.none)
  else .error missing

/-- Matches a call's positional and keyword values against the parameters. -/
def bind (sig : Signature) (args : List Value) (kwargs : List (String × Value)) :
    Except Fault Bound := do
  let n := sig.params.length
  let positional : List (Option Value) :=
    (args.take n).map some ++ List.replicate (n - args.length) Option.none
  let (slots, extra) ← sig.fillKeywords kwargs positional []
  if args.length > n && !sig.rest then
    throw (.tooManyArguments sig.owner (1 + n - sig.defaults.length) (1 + n) (1 + args.length))
  match sig.complete slots with
  | .ok values => pure { values, extra := args.drop n, options := extra }
  | .error missing => throw (.missingArguments sig.owner missing)

end Signature

def Bound.arg (b : Bound) (i : Nat) : Value := b.values.getD i .none

end DebugBridge
