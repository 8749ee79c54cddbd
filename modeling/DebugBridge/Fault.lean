import DebugBridge.Value.Render
/-!
# Why an operation failed

A `Fault` names the cause of a failure; `Fault.message` is the one place that words it, and
`Fault.kind` sorts faults into the classes that an answer reports. The adapters raise
memory, register and breakpoint faults on purpose; a backend raises faults of its own; and
values of the wrong shape make the operations on values fail with the remaining causes.
-/

namespace DebugBridge

set_option autoImplicit false

inductive FaultKind where
  | memory
  | register
  | breakpoint
  /-- raised by the backend itself, or a bare failure -/
  | raised
  | unsupported
  | assertion
  | wrongType
  | missingKey
  | outOfRange
  | badValue
  | overflow
  | noAttribute
  | unknownCodec
  | undefinedName
  | missingModule
  deriving DecidableEq, Repr

/-- The cause of a failure. -/
inductive Fault where
  /-- The target could not read or write memory. -/
  | memory (detail : String)
  /-- The target could not read or write a register. -/
  | register (detail : String)
  /-- The target could not set or remove a breakpoint. -/
  | breakpoint (detail : String)
  /-- The backend failed with this text, or an action failed without one. -/
  | raised (detail : String)
  /-- This kind of target does not provide the operation. -/
  | unsupported
  /-- A checked expectation about an argument did not hold. -/
  | assertion (detail : String)
  /-- A call left required parameters without a value. -/
  | missingArguments (owner : String) (names : List String)
  /-- A call gave more positional values than the parameters take, from `least` to `most`
  (both counting the target itself). -/
  | tooManyArguments (owner : String) (least most given : Nat)
  | unexpectedKeyword (owner : String) (name : String)
  | repeatedArgument (owner : String) (name : String)
  /-- Hex digits were asked of a value that is no integer. -/
  | hexOfNonInteger (kind : String)
  /-- A value that is no integer was used as a count, a position or a byte. -/
  | notAnIndex (kind : String)
  | notIterable (kind : String)
  /-- Membership was asked of a value that holds nothing. -/
  | notAContainer (kind : String)
  | noLength (kind : String)
  | notSubscriptable (kind : String)
  | badOperands (op : String) (left right : String)
  /-- Two values of kinds that have no order were compared. -/
  | unordered (op : String) (left right : String)
  /-- A value that is neither a number nor text was taken as an integer. -/
  | notANumber (kind : String)
  /-- Text or a list was extended by a value of another kind. -/
  | badConcat (container other : String)
  /-- A byte string was extended by a value that holds no bytes. -/
  | bytesConcat (other container : String)
  /-- A collection was indexed by a value of the wrong kind. -/
  | badSubscript (container index : String)
  | unhashable (kind : String)
  /-- Membership in text was asked of a value that is no text. -/
  | textOperand (kind : String)
  | bytesOperand (kind : String)
  | notBytes (kind : String)
  | textWithoutEncoding
  | prefixArgument (kind : String)
  | missingKey (key : Value)
  | outOfRange (container : String)
  | byteOutOfRange
  | byteValueOutOfRange
  | negativeCount
  | badNumeral (base : Nat) (text : String)
  | notAState (v : Value)
  | nanToInteger
  | infinityToInteger
  | intTooLarge
  | sizeOverflow
  | badFloatText (text : String)
  | noAttribute (kind : String) (name : String)
  | notCallable (kind : String)
  | notATextCodec (codec : String)
  | unknownCodec (codec : String)
  | undefinedName (name : String)
  | moduleBlocked (name : String)
  | notAPackage (child parent : String)
  /-- A template asked for more values than it was given. -/
  | formatShort
  /-- Values were left over after filling a template. -/
  | formatLeft
  /-- A template holds a conversion letter that is not one, at a position. -/
  | badConversion (c : Char) (at_ : Nat)
  /-- A template ends inside a conversion. -/
  | incompleteFormat
  /-- A call spread a value that yields no elements as its positional values. -/
  | spreadNotIterable (callee kind : String)
  /-- A call spread a value that is no table as its keyword values. -/
  | spreadNotMapping (callee kind : String)
  /-- A position is too large for any sequence. -/
  | indexTooLarge
  /-- Hex digits were read from a value that is no text; `kind` names it as a checked
  argument (`Value.argumentName`). -/
  | hexTextType (kind : String)
  /-- Hex text holds a character that is no hex digit, or lacks the second digit of a pair,
  at a position. -/
  | hexTextDigit (at_ : Nat)
  /-- A binary64 value was asked of a value that is neither text nor a number. -/
  | floatArgument (kind : String)
  /-- A list was asked to remove an entry by key and default. -/
  | popArity
  /-- A name to be interned is no text; `kind` names it as a checked argument. -/
  | internArgument (kind : String)
  /-- An integer with more than `Value.decimalDigitsMax` digits was to be written in decimal. -/
  | decimalTooLong
  deriving Repr, Inhabited

namespace Fault

def kind : Fault → FaultKind
  | .memory _ => .memory
  | .register _ => .register
  | .breakpoint _ => .breakpoint
  | .raised _ => .raised
  | .unsupported => .unsupported
  | .assertion _ => .assertion
  | .missingKey _ => .missingKey
  | .outOfRange _ | .indexTooLarge => .outOfRange
  | .byteOutOfRange | .byteValueOutOfRange | .negativeCount | .badNumeral .. | .notAState _
  | .nanToInteger | .badFloatText _ | .badConversion .. | .incompleteFormat
  | .hexTextDigit _ | .decimalTooLong => .badValue
  | .infinityToInteger | .intTooLarge | .sizeOverflow => .overflow
  | .noAttribute .. => .noAttribute
  | .notATextCodec _ | .unknownCodec _ => .unknownCodec
  | .undefinedName _ => .undefinedName
  | .moduleBlocked _ | .notAPackage .. => .missingModule
  | _ => .wrongType

/-- Names in quotes, joined as a sentence lists them: `'a'`, `'a' and 'b'`,
`'a', 'b', and 'c'`. -/
def quotedNames (names : List String) : String :=
  let q := names.map fun n => "'" ++ n ++ "'"
  match q with
  | [] => ""
  | [a] => a
  | [a, b] => a ++ " and " ++ b
  | _ => ", ".intercalate (q.dropLast) ++ ", and " ++ q.getLastD ""

def message : Fault → String
  | .memory d | .register d | .breakpoint d | .raised d | .assertion d => d
  | .unsupported => ""
  | .missingArguments owner names =>
    owner ++ "() missing " ++ toString names.length ++ " required positional argument" ++
      (if names.length == 1 then "" else "s") ++ ": " ++ quotedNames names
  | .tooManyArguments owner least most given =>
    let range := if least < most then "from " ++ toString least ++ " to " ++ toString most
      else toString most
    let plural := least < most || most != 1
    owner ++ "() takes " ++ range ++ " positional argument" ++ (if plural then "s" else "") ++
      " but " ++ toString given ++ (if given == 1 then " was" else " were") ++ " given"
  | .unexpectedKeyword owner name => owner ++ "() got an unexpected keyword argument '" ++ name ++ "'"
  | .repeatedArgument owner name => owner ++ "() got multiple values for argument '" ++ name ++ "'"
  | .hexOfNonInteger k => "%x format: an integer is required, not " ++ k
  | .notAnIndex k => "'" ++ k ++ "' object cannot be interpreted as an integer"
  | .notIterable k => "'" ++ k ++ "' object is not iterable"
  | .notCallable k => "'" ++ k ++ "' object is not callable"
  | .notAContainer k => "argument of type '" ++ k ++ "' is not iterable"
  | .noLength k => "object of type '" ++ k ++ "' has no len()"
  | .notSubscriptable k => "'" ++ k ++ "' object is not subscriptable"
  | .badOperands op l r => "unsupported operand type(s) for " ++ op ++ ": '" ++ l ++ "' and '" ++ r ++ "'"
  | .unordered op l r =>
    "'" ++ op ++ "' not supported between instances of '" ++ l ++ "' and '" ++ r ++ "'"
  | .notANumber k =>
    "int() argument must be a string, a bytes-like object or a real number, not '" ++ k ++ "'"
  | .badConcat c r => "can only concatenate " ++ c ++ " (not \"" ++ r ++ "\") to " ++ c
  | .bytesConcat r c => "can't concat " ++ r ++ " to " ++ c
  | .badSubscript c i =>
    if c == "str" then "string indices must be integers, not '" ++ i ++ "'"
    else if c == "bytes" then "byte indices must be integers or slices, not " ++ i
    else c ++ " indices must be integers or slices, not " ++ i
  | .unhashable k => "unhashable type: '" ++ k ++ "'"
  | .textOperand k => "'in <string>' requires string as left operand, not " ++ k
  | .bytesOperand k => "a bytes-like object is required, not '" ++ k ++ "'"
  | .notBytes k => "cannot convert '" ++ k ++ "' object to bytes"
  | .textWithoutEncoding => "string argument without an encoding"
  | .prefixArgument k => "startswith first arg must be bytes or a tuple of bytes, not " ++ k
  | .missingKey key => key.quote
  | .outOfRange c =>
    if c == "str" then "string index out of range"
    else if c == "bytes" then "index out of range"
    else c ++ " index out of range"
  | .byteOutOfRange => "bytes must be in range(0, 256)"
  | .byteValueOutOfRange => "byte must be in range(0, 256)"
  | .negativeCount => "negative count"
  | .badNumeral base text =>
    "invalid literal for int() with base " ++ toString base ++ ": " ++ Text.quoteText text
  | .notAState v => v.quote ++ " is not a valid TargetStates"
  | .nanToInteger => "cannot convert float NaN to integer"
  | .infinityToInteger => "cannot convert float infinity to integer"
  | .intTooLarge => "int too large to convert to float"
  | .sizeOverflow => "cannot fit 'int' into an index-sized integer"
  | .badFloatText t => "could not convert string to float: " ++ Text.quoteText t
  | .noAttribute k n => "'" ++ k ++ "' object has no attribute '" ++ n ++ "'"
  | .notATextCodec c =>
    "'" ++ c ++ "' is not a text encoding; use codecs.encode() to handle arbitrary codecs"
  | .unknownCodec c => "unknown encoding: " ++ c
  | .undefinedName n => "name '" ++ n ++ "' is not defined"
  | .moduleBlocked n => "import of " ++ n ++ " halted; None in sys.modules"
  | .notAPackage child parent =>
    "No module named '" ++ child ++ "'; '" ++ parent ++ "' is not a package"
  | .formatShort => "not enough arguments for format string"
  | .formatLeft => "not all arguments converted during string formatting"
  | .badConversion c at_ =>
    let shown := if 31 ≤ c.toNat && c.toNat ≤ 126 then c else '?'
    "unsupported format character '" ++ String.singleton shown ++ "' (0x" ++
      String.ofList (Nat.toDigits 16 c.toNat) ++ ") at index " ++ toString at_
  | .incompleteFormat => "incomplete format"
  | .spreadNotIterable callee k => callee ++ " argument after * must be an iterable, not " ++ k
  | .spreadNotMapping callee k => callee ++ " argument after ** must be a mapping, not " ++ k
  | .indexTooLarge => "cannot fit 'int' into an index-sized integer"
  | .hexTextType k => "fromhex() argument must be str, not " ++ k
  | .hexTextDigit at_ => "non-hexadecimal number found in fromhex() arg at position " ++ toString at_
  | .floatArgument k => "float() argument must be a string or a real number, not '" ++ k ++ "'"
  | .popArity => "pop expected at most 1 argument, got 2"
  | .internArgument k => "intern() argument must be str, not " ++ k
  | .decimalTooLong =>
    "Exceeds the limit (" ++ toString Value.decimalDigitsMax ++
      " digits) for integer string conversion; " ++
      "use sys.set_int_max_str_digits() to increase the limit"

end Fault

end DebugBridge
