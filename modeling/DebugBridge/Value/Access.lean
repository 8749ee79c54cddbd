import DebugBridge.Value.Arith
import DebugBridge.Text.Blank
/-!
# Looking into values

Membership, indexing, iteration, attributes and the few text operations the adapters
apply to replies. Each accepts the kinds of values that have the structure it needs and
fails with the fault that names the kind it got otherwise: a table is indexed by its text
keys, a list or text by a position counted from either end, a record by attribute.
-/

namespace DebugBridge

set_option autoImplicit false

namespace Value

mutual

/-- The kind of the first part of a value that cannot serve as a table key, looking into
tuples depth first: collections that change cannot. -/
def unhashablePart : Value → Option String
  | .list _ => some "list"
  | .dict _ => some "dict"
  | .record _ => some "types.SimpleNamespace"
  | .tuple xs => unhashableAmong xs
  | _ => Option.none

def unhashableAmong : List Value → Option String
  | [] => Option.none
  | x :: xs => (unhashablePart x).orElse fun _ => unhashableAmong xs

end

def hashable (v : Value) : Bool := v.unhashablePart.isNone

def unhashableKind (v : Value) : String := v.unhashablePart.getD v.kindName

def occursIn {α : Type} [BEq α] (p : List α) : List α → Bool
  | [] => p.isEmpty
  | c :: cs => p.isPrefixOf (c :: cs) || occursIn p cs

def entryAt (es : List (String × Value)) (key : Value) : Option Value :=
  match key with
  | .str k => lookup k es
  | _ => Option.none

/-- Whether `item` is in `container`: a key of a table, an element of a list or tuple, a
piece of a text, a byte or piece of a byte string. -/
def contains (container item : Value) : Except Fault Bool :=
  match container with
  | .dict es =>
    if item.hashable then .ok (entryAt es item).isSome else .error (.unhashable item.unhashableKind)
  | .list xs | .tuple xs => .ok (xs.any fun x => same x item)
  | .str s => match item with
    | .str p => .ok (occursIn p.toList s.toList)
    | _ => .error (.textOperand item.kindName)
  | .bytes b | .byteString b => match item.asInt?, item.asBytes? with
    | some n, _ =>
      if 0 ≤ n && n < 256 then .ok (b.contains n.toNat.toUInt8) else .error .byteValueOutOfRange
    | Option.none, some p => .ok (occursIn p b)
    | Option.none, Option.none => .error (.bytesOperand item.kindName)
  | _ => .error (.notAContainer container.kindName)

def position (n : Nat) (i : Int) : Option Nat :=
  let j := if i < 0 then i + n else i
  if 0 ≤ j && j < n then some j.toNat else Option.none

def fitsIndex (i : Int) : Bool := -Int.pow 2 63 ≤ i && i < Int.pow 2 63

/-- The element at position `i` of a sequence of length `n`, or the fault for a position
that is too large or out of range in a sequence of kind `kind`. -/
def positionIn (kind : String) (n : Nat) (i : Int) : Except Fault Nat :=
  if !fitsIndex i then .error .indexTooLarge
  else match position n i with
    | some j => .ok j
    | Option.none => .error (.outOfRange kind)

def index (container key : Value) : Except Fault Value :=
  match container with
  | .dict es =>
    if key.hashable then
      match entryAt es key with
      | some v => .ok v
      | Option.none => .error (.missingKey key)
    else .error (.unhashable key.unhashableKind)
  | .list xs | .tuple xs => match key.asInt? with
    | some i => do
      let j ← positionIn container.kindName xs.length i
      pure (xs.getD j .none)
    | Option.none => .error (.badSubscript container.kindName key.kindName)
  | .str s => match key.asInt? with
    | some i => do
      let j ← positionIn "str" s.length i
      pure (.str (String.singleton (s.toList.getD j ' ')))
    | Option.none => .error (.badSubscript "str" key.kindName)
  | .bytes b | .byteString b => match key.asInt? with
    | some i => do
      let j ← positionIn "bytes" b.length i
      pure (.int (b.getD j 0).toNat)
    | Option.none => .error (.badSubscript "bytes" key.kindName)
  | _ => .error (.notSubscriptable container.kindName)

/-- The elements a loop over a value visits: a sequence's elements, a table's keys, a
text's characters, a byte string's bytes. -/
def items (v : Value) : Except Fault (List Value) :=
  match v with
  | .list xs | .tuple xs => .ok xs
  | .dict es => .ok (es.map fun e => .str e.1)
  | .str s => .ok (s.toList.map fun c => .str (String.singleton c))
  | .bytes b | .byteString b => .ok (b.map fun x => .int x.toNat)
  | _ => .error (.notIterable v.kindName)

def attr (v : Value) (name : String) : Except Fault Value :=
  let missing : Except Fault Value := .error (.noAttribute v.kindName name)
  match v with
  | .record fs => match lookup name fs with
    | some x => .ok x
    | Option.none => missing
  | .region start stop offset label =>
    if name == "start_address" then .ok start
    else if name == "end_address" then .ok stop
    else if name == "offset" then .ok offset
    else if name == "name" then .ok label
    else missing
  | _ => missing

/-- The fault of calling a method `name` that a value lacks. A record field of that name
shadows the method, so the call fails on the field's value, which cannot be called. -/
def methodFault (v : Value) (name : String) : Fault :=
  match v with
  | .record fs => match lookup name fs with
    | some x => .notCallable x.kindName
    | Option.none => .noAttribute v.kindName name
  | _ => .noAttribute v.kindName name

def isBlankByte (b : UInt8) : Bool :=
  b == 32 || (9 ≤ b && b ≤ 13)

def strip (v : Value) : Except Fault Value :=
  match v with
  | .str s => .ok (.str (Text.trimBlanks s))
  | .bytes b | .byteString b =>
    .ok (.bytes ((b.dropWhile isBlankByte).reverse.dropWhile isBlankByte).reverse)
  | _ => .error (v.methodFault "strip")

def startsWith (v : Value) (p : String) : Except Fault Bool :=
  match v with
  | .str s => .ok (p.toList.isPrefixOf s.toList)
  | .bytes _ | .byteString _ => .error (.prefixArgument "str")
  | _ => .error (v.methodFault "startswith")

def lines (v : Value) : Except Fault (List String) :=
  match v with
  | .str s => .ok ((s.toList.splitOn '\n').map String.ofList)
  | .bytes _ | .byteString _ => .error (.bytesOperand "str")
  | _ => .error (v.methodFault "split")

/-- The lowercase hex text of a byte string of the older kind; text has no such codec, and
other values cannot encode themselves. -/
def hexEncoded (v : Value) : Except Fault String :=
  match v with
  | .byteString b => .ok (String.join (b.map fun x => Text.hexByte x.toNat))
  | .str _ => .error (.notATextCodec "hex")
  | _ => .error (v.methodFault "encode")

end Value

end DebugBridge
