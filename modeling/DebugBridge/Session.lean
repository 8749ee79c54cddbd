import DebugBridge.Gdb
import DebugBridge.Radare
import DebugBridge.Ida
import DebugBridge.Script
/-!
# Sessions

A session opens one target over a scripted backend and performs a list of operations on
it in order; the backend's queues carry over from one operation to the next. Each target
offers a fixed set of named operations, each with its parameters, and a few named
attributes. For every step the session reports its value or fault, the backend calls it
made, and what it printed.
-/

namespace DebugBridge

set_option autoImplicit false

/-- A target with the state its adapter keeps. -/
inductive Target where
  | abstract
  | gdb (t : GdbTarget)
  | radare
  | ida (t : IdaTarget)
  deriving Inhabited

structure Home where
  place : String
  owner : String

/-- An operation a target offers: how a call names it when its values cannot be spread,
its parameters, and what it does with the values bound to them. -/
structure Operation (m : Type → Type) where
  callee : String
  signature : Signature
  perform : Bound → m Value

namespace Target

variable {m : Type → Type} [Monad m] [MonadExceptOf Fault m] (link : Link m)

def backend : Target → Backend
  | .abstract => .none
  | .gdb _ => .gdb
  | .radare => .radare
  | .ida _ => .ida

def baseHome : Home := ⟨"angr_targets.concrete", "ConcreteTarget"⟩
def gdbHome : Home := ⟨"angr_targets.targets.avatar_gdb", "AvatarGDBConcreteTarget"⟩
def radareHome : Home := ⟨"angr_targets.targets.r2_target", "R2ConcreteTarget"⟩
def idaHome : Home := ⟨"angr_targets.targets.ida_target", "IDAConcreteTarget"⟩

def operationAt (h : Home) (name : String) (signature : Signature) (perform : Bound → m Value) :
    Operation m :=
  { callee := h.place ++ "." ++ h.owner ++ "." ++ name ++ "()", signature, perform }

def keyed (h : Home) (name : String) (params : List String) (perform : Bound → m Value) :
    Operation m :=
  operationAt h name { owner := h.owner ++ "." ++ name, params, options := true } perform

def plain (h : Home) (name : String) (params : List String) (perform : Bound → m Value) :
    Operation m :=
  operationAt h name { owner := h.owner ++ "." ++ name, params } perform

def loose (h : Home) (name : String) (params : List String) (defaults : List Value)
    (perform : Bound → m Value) : Operation m :=
  operationAt h name
    { owner := h.owner ++ "." ++ name, params, defaults, rest := true, options := true } perform

/-- The operations every target inherits unless it brings its own: none is provided, and
code injection runs over the target's primitives. -/
def inherited (t : Primitives m) (name : String) : Option (Operation m) :=
  let o := baseHome
  let none_ : Bound → m Value := fun _ => throwThe Fault .unsupported
  match name with
  | "read_memory" => some (keyed o name ["address", "nbytes"] none_)
  | "write_memory" => some (keyed o name ["address", "value"] none_)
  | "read_register" => some (keyed o name ["register"] none_)
  | "write_register" => some (keyed o name ["register", "value"] none_)
  | "set_breakpoint" | "remove_breakpoint" | "set_watchpoint" | "remove_watchpoint" =>
    some (keyed o name ["address"] none_)
  | "get_mappings" | "run" | "stop" => some (plain o name [] none_)
  | "execute_shellcode" =>
    some (plain o name ["shellcode", "result_register"] fun b => t.inject (b.arg 0) (b.arg 1))
  | _ => Option.none

def gdbOperation (g : GdbTarget) (name : String) : Option (Operation m) :=
  let o := gdbHome
  match name with
  | "exit" => some (plain o name [] fun _ => GdbTarget.exit link)
  | "read_memory" => some (keyed o name ["address", "nbytes"] fun b => g.readMemory link (b.arg 0) (b.arg 1))
  | "write_memory" => some (keyed o name ["address", "value"] fun b => GdbTarget.writeMemory link (b.arg 0) (b.arg 1))
  | "read_register" => some (keyed o name ["register"] fun b => GdbTarget.readRegister link (b.arg 0))
  | "write_register" => some (keyed o name ["register", "value"] fun b => GdbTarget.writeRegister link (b.arg 0) (b.arg 1))
  | "set_breakpoint" => some (keyed o name ["address"] fun b => GdbTarget.setBreakpoint link (b.arg 0) b.options)
  | "remove_breakpoint" => some (keyed o name ["address"] fun b => GdbTarget.removeBreakpoint link (b.arg 0) b.options)
  | "set_watchpoint" => some (keyed o name ["address"] fun b => GdbTarget.setWatchpoint link (b.arg 0) b.options)
  | "get_mappings" => some (plain o name [] fun _ => GdbTarget.mappings link)
  | "is_running" => some (plain o name [] fun _ => GdbTarget.isRunning link)
  | "stop" => some (plain o name [] fun _ => GdbTarget.stop link)
  | "shutdown" => some (plain o name [] fun _ => GdbTarget.shutdown link)
  | "run" => some (plain o name [] fun _ => GdbTarget.run link)
  | "remove_watchpoint" | "execute_shellcode" => inherited (g.primitives link) name
  | _ => Option.none

def radareOperation (name : String) : Option (Operation m) :=
  let o := radareHome
  match name with
  | "exit" => some (plain o name [] fun _ => Radare.exit link)
  | "read_memory" => some (keyed o name ["address", "nbytes"] fun b => Radare.readMemory link (b.arg 0) (b.arg 1))
  | "write_memory" => some (keyed o name ["address", "value"] fun b => Radare.writeMemory link (b.arg 0) (b.arg 1))
  | "read_register" => some (keyed o name ["register"] fun b => Radare.readRegister link (b.arg 0))
  | "write_register" => some (keyed o name ["register", "value"] fun b => Radare.writeRegister link (b.arg 0) (b.arg 1))
  | "set_breakpoint" => some (keyed o name ["address"] fun b => Radare.setBreakpoint link (b.arg 0))
  | "remove_breakpoint" => some (keyed o name ["address"] fun b => Radare.removeBreakpoint link (b.arg 0))
  | "set_watchpoint" => some (keyed o name ["address"] fun b => Radare.setWatchpoint link (b.arg 0) b.options)
  | "remove_watchpoint" => some (keyed o name ["address"] fun b => Radare.removeBreakpoint link (b.arg 0))
  | "get_mappings" => some (plain o name [] fun _ => Radare.mappings link)
  | "is_running" => some (plain o name [] fun _ => pure (.bool false))
  | "stop" => some (plain o name [] fun _ => pure .none)
  | "run" => some (plain o name [] fun _ => Radare.run link)
  | "execute_shellcode" => inherited (Radare.primitives link) name
  | _ => Option.none

def idaOperation (t : IdaTarget) (name : String) : Option (Operation m) :=
  let o := idaHome
  match name with
  | "read_register" => some (loose o name ["register"] [] fun b => IdaTarget.readRegister link (b.arg 0))
  | "write_register" => some (loose o name ["register", "value"] [] fun b => IdaTarget.writeRegister link (b.arg 0) (b.arg 1))
  | "read_memory" => some (loose o name ["address", "nbytes"] [] fun b => IdaTarget.readMemory link (b.arg 0) (b.arg 1))
  | "write_memory" => some (loose o name ["address", "value"] [] fun b => IdaTarget.writeMemory link (b.arg 0) (b.arg 1))
  | "set_breakpoint" =>
    some (loose o name ["address", "hardware"] [.bool false]
      fun b => IdaTarget.setBreakpoint link .idc (b.arg 0) (b.arg 1))
  | "remove_breakpoint" => some (loose o name ["address"] [] fun b => IdaTarget.removeBreakpoint link (b.arg 0))
  | "set_watchpoint" => some (loose o name ["address"] [] fun b => IdaTarget.setWatchpoint link .idc (b.arg 0))
  | "make_unknown" => some (plain o name ["address", "size"] fun b => IdaTarget.makeUnknown link (b.arg 0) (b.arg 1))
  | "make_code" => some (plain o name ["address"] fun b => IdaTarget.makeCode link (b.arg 0))
  | "make_function" => some (plain o name ["address"] fun b => IdaTarget.makeFunction link (b.arg 0))
  | "make_comment" => some (plain o name ["address", "comment"] fun b => IdaTarget.makeComment link (b.arg 0) (b.arg 1))
  | "set_line_color" => some (plain o name ["color", "address"] fun b => IdaTarget.setLineColor link .idc (b.arg 0) (b.arg 1))
  | "edit_function_boundaries" =>
    some (plain o name ["start_address", "end_address"]
      fun b => IdaTarget.editFunctionBoundaries link (b.arg 0) (b.arg 1))
  | "get_mappings" => some (plain o name [] fun _ => IdaTarget.mappings link)
  | "run" => some (loose o name [] [] fun _ => IdaTarget.run link .idc)
  | "exit" => some (plain o name [] fun _ => t.exit link)
  | "execute_shellcode" =>
    some (plain o name ["shellcode", "result_register"] fun b => IdaTarget.inject link .idc (b.arg 0) (b.arg 1))
  | "stop" | "remove_watchpoint" => inherited Primitives.unsupported name
  | _ => Option.none

def operation? : Target → String → Option (Operation m)
  | .abstract, name => inherited Primitives.unsupported name
  | .gdb g, name => gdbOperation link g name
  | .radare, name => radareOperation link name
  | .ida t, name => idaOperation link t name

def attribute? : Target → String → Option (m Value)
  | _, "timeout" => some (pure .none)
  | .gdb g, "architecture" => some (pure g.architecture)
  | .gdb g, "page_size" => some (pure g.pageSize)
  | .radare, "architecture" => some (Radare.binaryField link "arch")
  | .radare, "bits" => some (Radare.binaryField link "bits")
  | .ida t, "headless" => some (pure t.headless)
  | _, _ => Option.none

end Target

def entriesOf : Value → List (String × Value)
  | .dict es => es
  | _ => []

def fieldOf (v : Value) (k : String) : Option Value :=
  Value.lookup k (entriesOf v)

def entryOrNone (v : Value) (k : String) : Except Fault Value :=
  match v with
  | .dict es => .ok ((Value.lookup k es).getD .none)
  | _ => .error (v.methodFault "get")

/-- Removes the entry under a key from a table: its value (nothing when absent) and the
rest of the table. A list cannot be asked with a default, and other values have no
entries to remove. -/
def removeEntry (v : Value) (k : String) : Except Fault (Value × List (String × Value)) :=
  match v with
  | .dict es => .ok ((Value.lookup k es).getD .none, es.filter (·.1 != k))
  | .list _ => .error .popArity
  | _ => .error (v.methodFault "pop")

/-- The kinds of target a session can open, by name: the name must serve as a table key,
and a name that is not a kind fails with itself as the missing key. -/
def targetKind (name : Value) : Except Fault Backend :=
  match name with
  | .str "base" => .ok .none
  | .str "gdb" => .ok .gdb
  | .str "r2" => .ok .radare
  | .str "ida" => .ok .ida
  | _ => if name.hashable then .error (.missingKey name) else .error (.unhashable name.unhashableKind)

def idaOpening : Signature :=
  { owner := "IDAConcreteTarget.__init__", params := ["headless", "binary_path"],
    defaults := [.bool false, .none] }

/-- Opens a target of a kind with decoded settings. A gdb target reads its
architecture and server from the settings and may have its page size replaced; an IDA
target takes the settings as keyword values, less the entry `$platform`, which names the
platform the debugger runs on (Windows when it is `win32`) and must be text if present. -/
def openTarget (kind : Backend) (settings : Value) : Scripted Target := do
  match kind with
  | .none => pure .abstract
  | .radare => pure .radare
  | .gdb =>
    let architecture ← liftFault (entryOrNone settings "architecture")
    let ip ← liftFault (entryOrNone settings "gdbserver_ip")
    let port ← liftFault (entryOrNone settings "gdbserver_port")
    let g ← GdbTarget.connect scriptedLink architecture ip port
    match fieldOf settings "page_size" with
    | some p => pure (.gdb { g with pageSize := p })
    | Option.none => pure (.gdb g)
  | .ida =>
    let (platform, rest) ← liftFault (removeEntry settings "$platform")
    let windows ← match platform with
      | .none => pure false
      | .str p => pure (p == "win32")
      | v => throwThe Fault (.internArgument v.argumentName)
    let b ← liftFault (idaOpening.bind [] rest)
    let t ← IdaTarget.connect scriptedLink .idc (b.arg 0) (b.arg 1) windows
    pure (.ida t)

def spreadPositional (callee : String) (v : Value) : Except Fault (List Value) :=
  match v.items with
  | .ok xs => .ok xs
  | .error _ => .error (.spreadNotIterable callee v.kindName)

/-- The keyword values a call spreads from `v`, which must be a table. Anything else is
asked for its keys, so a record with a field `keys` fails on calling that field. -/
def spreadKeywords (callee : String) (v : Value) : Except Fault (List (String × Value)) :=
  match v with
  | .dict es => .ok es
  | .record fs => match Value.lookup "keys" fs with
    | some x => .error (.notCallable x.kindName)
    | none => .error (.spreadNotMapping callee v.kindName)
  | _ => .error (.spreadNotMapping callee v.kindName)

/-- Performs one step, whose operation is named `name`: an attribute read, or an operation
called with the step's arguments and keyword arguments, both decoded. A name must serve as
a key of the table of names; an operation name that is not one fails with a missing key
that joins it to `bad op`, and so only text can name it. -/
def Target.perform (t : Target) (step name : Value) : Scripted Value := do
  if Value.same name (.str "attr") then
    let attrName ← liftFault (step.index (.str "name"))
    if !attrName.hashable then throwThe Fault (.unhashable attrName.unhashableKind)
    let read? := match attrName with
      | .str a => t.attribute? scriptedLink a
      | _ => Option.none
    match read? with
    | some read => read
    | Option.none => throwThe Fault (.missingKey (.str "bad attr"))
  else
    if !name.hashable then throwThe Fault (.unhashable name.unhashableKind)
    let op? := match name with
      | .str n => t.operation? scriptedLink n
      | _ => Option.none
    match op? with
    | some op =>
      let args ← liftFault ((fieldOf step "args").getD (.list [])).decode
      let kwargs ← liftFault ((fieldOf step "kwargs").getD (.dict [])).decode
      let options ← liftFault (spreadKeywords op.callee kwargs)
      let positional ← liftFault (spreadPositional op.callee args)
      let b ← liftFault (op.signature.bind positional options)
      op.perform b
    | Option.none =>
      let key ← liftFault ((Value.str "bad op ").add name)
      throwThe Fault (.missingKey key)

structure StepReport where
  outcome : Except Fault Value
  calls : List Call
  printed : String

structure SessionReport where
  opening : StepReport
  steps : List StepReport

def observe {α : Type} (s : Script) (c : Scripted α) : (Except Fault α × StepReport) × Script :=
  let (r, s') := (c.run).run { s with log := [], console := "" }
  let report : StepReport :=
    { outcome := r.map fun _ => .none, calls := s'.log.reverse, printed := s'.console }
  ((r, report), s')

/-- Runs the steps in order on an open target, carrying the script along. Reading a step's
operation name is not part of the step: a step without one fails the whole session. -/
def runSteps (t : Target) : Script → List Value → Except Fault (List StepReport)
  | _, [] => .ok []
  | s, step :: rest => do
    let name ← step.index (.str "op")
    let (r, s') := ((t.perform step name).run).run { s with log := [], console := "" }
    let later ← runSteps t s' rest
    pure ({ outcome := r, calls := s'.log.reverse, printed := s'.console } :: later)

/-- Opens a target of a kind over a script of replies and performs the steps that `ops`
lists, once the target is open. -/
def runSession (kind : Backend) (settings : Value) (replies : List (String × List Value))
    (ops : Value) : Except Fault SessionReport := do
  let start : Script := { backend := kind, queues := replies }
  let ((opened, opening), s) := observe start (openTarget kind settings)
  match opened with
  | .ok t =>
    let steps ← ops.items
    let reports ← runSteps t s steps
    pure { opening, steps := reports }
  | .error _ => pure { opening, steps := [] }

end DebugBridge
