import DebugBridge.Value.Arith
/-!
# Filling a template with values

In a template `%s` writes a value as text, `%r` quoted, `%x` an integer in lowercase hex
(`%#x` after `0x`) and `%%` a percent sign. The values come as a list, one per conversion,
or as a single value, which stands for its elements when it is a tuple. A value whose text
would write an integer of more than `decimalDigitsMax` decimal digits has no text, so its
conversion fails; hex has no limit. A template that asks for more values than there are
fails, and so do values left over, except one single value that can be read by key.
-/

namespace DebugBridge

set_option autoImplicit false

namespace Value

/-- The values a template is filled with. -/
inductive FormatArgs where
  /-- Values given together, one per conversion. -/
  | many (xs : List Value)
  /-- One value; a tuple stands for its elements. -/
  | one (v : Value)
  deriving Inhabited

def FormatArgs.values : FormatArgs → List Value
  | .many xs => xs
  | .one (.tuple xs) => xs
  | .one v => [v]

def FormatArgs.spareAllowed : FormatArgs → Bool
  | .one (.dict _) | .one (.list _) | .one (.bytes _) | .one (.byteString _) => true
  | _ => false

/-- The text of a value standing by itself, refused when it would write an integer in
decimal with more than `decimalDigitsMax` digits. -/
def renderLimited (v : Value) : Except Fault String :=
  if v.textFits then .ok v.render else .error .decimalTooLong

def quoteLimited (v : Value) : Except Fault String :=
  if v.textFits then .ok v.quote else .error .decimalTooLong

/-- One conversion of a value, `c` being its letter and `alternate` whether `#` came
before it; `at_` is the position of the letter in the template. -/
def convert (alternate : Bool) (c : Char) (at_ : Nat) (v : Value) : Except Fault String :=
  match c with
  | 's' => v.renderLimited
  | 'r' => v.quoteLimited
  | 'x' => match v.asInt? with
    | some n =>
      let digits := String.ofList (Nat.toDigits 16 n.natAbs)
      let prefix_ := if alternate then "0x" else ""
      .ok ((if n < 0 then "-" else "") ++ prefix_ ++ digits)
    | Option.none => .error (.hexOfNonInteger v.kindName)
  | _ => .error (.badConversion c at_)

/-- Fills the template characters `cs`, which start at position `at_`, from `values`:
the text, and the values no conversion took. -/
def fillFrom : List Char → Nat → List Value → Except Fault (String × List Value)
  | [], _, values => .ok ("", values)
  | c :: rest, at_, values =>
    if c == '%' then
      match rest, values with
      | '%' :: more, _ => do
        let (text, left) ← fillFrom more (at_ + 2) values
        pure ("%" ++ text, left)
      | '#' :: d :: more, v :: vs => do
        let piece ← convert true d (at_ + 2) v
        let (text, left) ← fillFrom more (at_ + 3) vs
        pure (piece ++ text, left)
      | '#' :: _, _ => .error .incompleteFormat
      | d :: more, v :: vs => do
        let piece ← convert false d (at_ + 1) v
        let (text, left) ← fillFrom more (at_ + 2) vs
        pure (piece ++ text, left)
      | _ :: _, [] => .error .formatShort
      | [], _ => .error .incompleteFormat
    else do
      let (text, left) ← fillFrom rest (at_ + 1) values
      pure (String.singleton c ++ text, left)

def interpolate (template : String) (args : FormatArgs) : Except Fault String := do
  let (text, left) ← fillFrom template.toList 0 args.values
  if !left.isEmpty && !args.spareAllowed then throw .formatLeft
  pure text

theorem fillFrom_plain (cs : List Char) (at_ : Nat) (h : '%' ∉ cs) :
    fillFrom cs at_ [] = .ok (String.ofList cs, []) := by
  induction cs generalizing at_ with
  | nil => rfl
  | cons c rest ih =>
    have hc : (c == '%') = false := by
      simp only [beq_eq_false_iff_ne]
      exact fun e => h (e ▸ List.mem_cons_self)
    have hr : '%' ∉ rest := fun m => h (List.mem_cons_of_mem c m)
    rw [fillFrom.eq_def]
    simp only [hc, Bool.false_eq_true, ite_false, ih (at_ + 1) hr]
    show Except.ok (String.singleton c ++ String.ofList rest, []) = _
    simp

end Value

end DebugBridge
