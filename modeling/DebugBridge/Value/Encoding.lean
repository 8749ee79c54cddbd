import DebugBridge.Value.Arith
import DebugBridge.Decimal.Read
/-!
# How requests write values

A request is a tree of tables with text keys, lists, text, numbers, booleans and nothing.
Other values are a table with a marker key: `$py2str` and `$bytes` with hex text for the two
kinds of byte string, `$float` for a binary64 value, `$tuple` for a tuple of the decoded
elements and `$obj` for a record of the decoded entries. The first marker in that order
wins and the table's other entries are ignored; any other table, and any list, is decoded
element by element. A fault in hex text names the position of the first bad character.
-/

namespace DebugBridge

set_option autoImplicit false

namespace Value

/-- The bytes written by hex characters `cs`, which start at position `at_`: pairs of
hex digits, with ASCII white space allowed before each pair. -/
def hexPairs : List Char → Nat → Except Fault (List UInt8)
  | [], _ => .ok []
  | c :: rest, at_ =>
    if Text.isAsciiSpace c then hexPairs rest (at_ + 1)
    else match Text.hexDigitValue c, rest with
      | some hi, d :: more => match Text.hexDigitValue d with
        | some lo => ((hi * 16 + lo).toUInt8 :: ·) <$> hexPairs more (at_ + 2)
        | Option.none => .error (.hexTextDigit (at_ + 1))
      | some _, [] => .error (.hexTextDigit (at_ + 1))
      | Option.none, _ => .error (.hexTextDigit at_)

/-- The bytes a hex text writes. Text with a character outside ASCII fails at the first
such character, before any pair is read. -/
def bytesOfHexText (v : Value) : Except Fault (List UInt8) :=
  match v with
  | .str s =>
    match s.toList.findIdx? (fun c => c.toNat > 127) with
    | some i => .error (.hexTextDigit i)
    | Option.none => hexPairs s.toList 0
  | _ => .error (.hexTextType v.argumentName)

def doubleOf (v : Value) : Except Fault Double :=
  match v with
  | .str t => match Decimal.readDouble t with
    | some x => .ok x
    | Option.none => .error (.badFloatText t)
  | .float x => .ok x
  | _ => match v.asInt? with
    | some n => toDouble n
    | Option.none => .error (.floatArgument v.kindName)

/-- The marker keys of a request tree, in the order in which they take precedence. -/
inductive Marker where
  | byteString
  | bytes
  | float
  | tuple
  | record
  deriving DecidableEq, Repr

def Marker.key : Marker → String
  | .byteString => "$py2str"
  | .bytes => "$bytes"
  | .float => "$float"
  | .tuple => "$tuple"
  | .record => "$obj"

def Marker.precedence : List Marker := [.byteString, .bytes, .float, .tuple, .record]

mutual

def decode : Value → Except Fault Value
  | .list xs => .list <$> decodeList xs
  | .dict es =>
    match Marker.precedence.findSome? (fun m => decodeMarked m es) with
    | some r => r
    | Option.none => .dict <$> decodeEntries es
  | v => .ok v

def decodeList : List Value → Except Fault (List Value)
  | [] => .ok []
  | x :: xs => do
    let y ← decode x
    let ys ← decodeList xs
    pure (y :: ys)

def decodeEntries : List (String × Value) → Except Fault (List (String × Value))
  | [] => .ok []
  | (k, x) :: rest => do
    let y ← decode x
    let ys ← decodeEntries rest
    pure ((k, y) :: ys)

def decodeMarked (m : Marker) : List (String × Value) → Option (Except Fault Value)
  | [] => Option.none
  | (k, x) :: rest =>
    if k == m.key then
      some <| match m with
        | .byteString => .byteString <$> bytesOfHexText x
        | .bytes => .bytes <$> bytesOfHexText x
        | .float => .float <$> doubleOf x
        | .tuple => .tuple <$> decodeElements x
        | .record => .record <$> decodeFields x
    else decodeMarked m rest

/-- The decoded elements of a tuple's contents: a list's elements, a text's characters, a
table's keys. -/
def decodeElements : Value → Except Fault (List Value)
  | .list xs => decodeList xs
  | .str s => .ok (s.toList.map fun c => .str (String.singleton c))
  | .dict es => .ok (es.map fun e => .str e.1)
  | v => .error (.notIterable v.kindName)

def decodeFields : Value → Except Fault (List (String × Value))
  | .dict es => decodeEntries es
  | v => .error (.noAttribute v.kindName "items")

end

theorem decodeMarked_eq_none (m : Marker) (es : List (String × Value))
    (h : ∀ e ∈ es, e.1 ≠ m.key) : decodeMarked m es = Option.none := by
  induction es with
  | nil => simp [decodeMarked]
  | cons e rest ih =>
    obtain ⟨k, x⟩ := e
    have hk : k ≠ m.key := h (k, x) List.mem_cons_self
    have hr : ∀ e ∈ rest, e.1 ≠ m.key := fun e he => h e (List.mem_cons_of_mem _ he)
    simp [decodeMarked, hk, ih hr]

theorem decode_dict_unmarked (es : List (String × Value))
    (h : ∀ e ∈ es, ∀ m : Marker, e.1 ≠ m.key) :
    decode (.dict es) = .dict <$> decodeEntries es := by
  have none_found : Marker.precedence.findSome? (fun m => decodeMarked m es) = Option.none := by
    simp only [List.findSome?_eq_none_iff]
    intro m _
    exact decodeMarked_eq_none m es fun e he => h e he m
  rw [decode, none_found]

@[simp] theorem decode_int (n : Int) : decode (.int n) = .ok (.int n) := by
  simp [decode]

@[simp] theorem decode_str (s : String) : decode (.str s) = .ok (.str s) := by
  simp [decode]

end Value

end DebugBridge
