import DebugBridge.Value.Double
/-!
# Values exchanged with a debugger

A debugger adapter passes values to its backend and gets values back: integers of any size,
byte strings, register tables, lists of breakpoints, module descriptions. A scripted backend
may return a value of any shape, and what an adapter then does is part of its behaviour, so
the library keeps one value type for everything that crosses the boundary.

This module fixes the type, the name each kind of value is reported under, which values
count as true, and when two values are equal. Numbers of different kinds are equal when they
stand for the same number; a boolean is the number 0 or 1.
-/

namespace DebugBridge

set_option autoImplicit false

/-- A value that an operation receives, a backend replies with, or an operation returns. -/
inductive Value where
  | none
  | bool (b : Bool)
  | int (n : Int)
  | float (x : Double)
  | str (s : String)
  | bytes (b : List UInt8)
  /-- A byte string of the older kind, which can also write itself as hex text. -/
  | byteString (b : List UInt8)
  | list (xs : List Value)
  | tuple (xs : List Value)
  /-- A table from text keys to values, in insertion order. -/
  | dict (entries : List (String × Value))
  /-- An object with named attributes. -/
  | record (fields : List (String × Value))
  /-- A memory region of the debugged process: start, end, file offset and name. -/
  | region (start stop offset name : Value)
  /-- An opaque object known by the name of its kind, such as an action given to a backend. -/
  | handle (kind : String)
  /-- A kind of object itself, by name. -/
  | kindRef (name : String)
  deriving Repr, Inhabited

namespace Value

def kindName : Value → String
  | .none => "NoneType"
  | .bool _ => "bool"
  | .int _ => "int"
  | .float _ => "float"
  | .str _ => "str"
  | .bytes _ => "bytes"
  | .byteString _ => "Py2Str"
  | .list _ => "list"
  | .tuple _ => "tuple"
  | .dict _ => "dict"
  | .record _ => "types.SimpleNamespace"
  | .region .. => "MemoryMap"
  | .handle k => k
  | .kindRef _ => "type"

/-- How a builtin names an argument of the wrong kind when it checks its parameters
against declared kinds: nothing is named by itself, any other value by its kind. -/
def argumentName : Value → String
  | .none => "None"
  | v => v.kindName

/-- How a value's kind writes itself: its full name between `<class '` and `'>`. Kinds
defined outside the core language carry the module that defines them: the byte string of
the older kind comes from the program that runs the adapters, regions and actions from
the adapters' own modules. -/
def kindText (v : Value) : String :=
  let full := match v with
    | .byteString _ => "__main__.Py2Str"
    | .region .. => "angr_targets.memory_map.MemoryMap"
    | .handle k => "angr_targets.targets.ida_target." ++ k
    | _ => v.kindName
  "<class '" ++ full ++ "'>"

/-- Whether a value counts as true in a test: nothing, false, zero and empty collections
do not; every other value does. -/
def truthy : Value → Bool
  | .none => false
  | .bool b => b
  | .int n => n != 0
  | .float x => x.isNaN || !x.isZero
  | .str s => !s.isEmpty
  | .bytes b => !b.isEmpty
  | .byteString b => !b.isEmpty
  | .list xs => !xs.isEmpty
  | .tuple xs => !xs.isEmpty
  | .dict es => !es.isEmpty
  | .record _ => true
  | .region .. => true
  | .handle _ => true
  | .kindRef _ => true

def asInt? : Value → Option Int
  | .int n => some n
  | .bool b => some (if b then 1 else 0)
  | _ => Option.none

def asBytes? : Value → Option (List UInt8)
  | .bytes b => some b
  | .byteString b => some b
  | _ => Option.none

def lookup (k : String) : List (String × Value) → Option Value
  | [] => Option.none
  | (k', v) :: rest => if k == k' then some v else lookup k rest

def sameScalar (v w : Value) : Bool :=
  match v, w with
  | .float x, .float y => x.same y
  | .float x, _ => match w.asInt? with
    | some n => x.equalsInt n
    | Option.none => false
  | _, .float y => match v.asInt? with
    | some n => y.equalsInt n
    | Option.none => false
  | _, _ => match v.asInt?, w.asInt? with
    | some a, some b => a == b
    | _, _ => match v.asBytes?, w.asBytes? with
      | some a, some b => a == b
      | _, _ => false

mutual

/-- Equality of values: numbers by the number they stand for, collections element by
element, tables and records by their entries in any order. -/
def same : Value → Value → Bool
  | .none, w => match w with
    | .none => true
    | _ => false
  | .str a, w => match w with
    | .str b => a == b
    | _ => false
  | .list xs, w => match w with
    | .list ys => sameList xs ys
    | _ => false
  | .tuple xs, w => match w with
    | .tuple ys => sameList xs ys
    | _ => false
  | .dict xs, w => match w with
    | .dict ys => xs.length == ys.length && sameEntries xs ys
    | _ => false
  | .record xs, w => match w with
    | .record ys => xs.length == ys.length && sameEntries xs ys
    | _ => false
  | .region .., _ => false
  | .handle a, w => match w with
    | .handle b => a == b
    | _ => false
  | .kindRef a, w => match w with
    | .kindRef b => a == b
    | _ => false
  | v, w => sameScalar v w

def sameList : List Value → List Value → Bool
  | [], ys => ys.isEmpty
  | x :: xs, ys => match ys with
    | y :: ys => same x y && sameList xs ys
    | [] => false

def sameEntries : List (String × Value) → List (String × Value) → Bool
  | [], _ => true
  | (k, v) :: rest, other =>
    (match lookup k other with
      | some w => same v w
      | Option.none => false) && sameEntries rest other

end

end Value

end DebugBridge
