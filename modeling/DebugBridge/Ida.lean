import DebugBridge.Injection
import DebugBridge.MemoryMap
/-!
# A target inside IDA's debugger

Most operations hand an *action* to IDA's main thread (`idaapi.execute_sync`); the action
calls the debugger and notes whether that call failed, and a failed action then becomes a
fault without text. Reading memory is the exception: its action does not catch a failing
call, and an empty or false reply counts as a failure. Byte strings are of the older kind
that can write themselves as hex. The constants of IDA's `idc` module that the adapter
passes on are a parameter, `IdaApi`.
-/

namespace DebugBridge

set_option autoImplicit false

/-- The constants of IDA's `idc` module that the adapter hands to the debugger. IDA defines
their values, so the adapter is written for any. -/
structure IdaApi where
  bptExec : Nat      -- BPT_EXEC, a breakpoint on execution
  bptSoft : Nat      -- BPT_SOFT, a breakpoint in software
  bptRdwr : Int      -- BPT_RDWR, a watchpoint on reads and writes
  bptAttrSize : Int  -- BPTATTR_SIZE, the attribute that sizes a breakpoint
  bptAttrType : Int  -- BPTATTR_TYPE, the attribute that sets its kind
  waitSuspend : Int  -- WFNE_SUSP, wait until the process is suspended
  colorItem : Int    -- CIC_ITEM, colour one item
  startBreak : Int   -- DOPT_START_BPT, stop when the process starts

/-- The values IDA's `idc` module gives its constants. -/
def IdaApi.idc : IdaApi where
  bptExec := 8
  bptSoft := 4
  bptRdwr := 3
  bptAttrSize := 5
  bptAttrType := 6
  waitSuspend := 1
  colorItem := 1
  startBreak := 1

/-- What the adapter keeps: whether IDA runs without its user interface, in which case the
adapter started the debugger itself and must close IDA on exit. -/
structure IdaTarget where
  headless : Value := .bool false
  deriving Inhabited

namespace IdaTarget

variable {m : Type → Type} [Monad m] [MonadExceptOf Fault m] (link : Link m) (api : IdaApi)

def exit (t : IdaTarget) : m Value := do
  if t.headless.truthy then
    link.notify { path := "idc.Exit", args := [.int 0] }
  pure .none

/-- Opens the target. Without a user interface the adapter loads the binary, picks the
Windows or the Linux debugger, and starts the process up to its first event; a missing
binary path closes IDA first, and the start goes on regardless. -/
def connect (headless binaryPath : Value) (windows : Bool) : m IdaTarget := do
  let t : IdaTarget := { headless }
  if headless.truthy then
    if binaryPath matches .none then
      let _ ← t.exit link
    link.notify { path := "idc.SetInputFilePath", args := [binaryPath] }
    link.notify { path := "idaapi.autoWait" }
    link.notify { path := "idc.LoadDebugger", args := [.str (if windows then "win32" else "linux"), .int 0] }
    link.notify { path := "idc.SetInputFilePath", args := [binaryPath] }
    link.notify { path := "idc.SetDebuggerOptions", args := [.int api.startBreak] }
    link.notify { path := "idc.StartDebugger", args := [.str "", .str "", .str ""] }
    link.notify { path := "idc.ResumeProcess" }
    link.notify { path := "idc.GetDebuggerEvent", args := [.int api.waitSuspend, .int (-1)] }
  pure t

/-- Hands an action, known to IDA by its kind, to the main thread and runs it. The hand-over
is itself a call, which may fail before the action runs. -/
def submit {α : Type} (kind : String) (action : m α) : m α := do
  link.notify { path := "idaapi.execute_sync", args := [.handle kind, .int 0] }
  action

def attempt (body : m Value) : m (Option Value) :=
  rescue (some <$> body) (fun _ => pure Option.none)

def resolve (register : Value) : m Value := do
  if Value.same register (.str "pc") then
    link.notify { path := "idaapi.get_inf_structure" }
    let wide ← link.send { path := "inf.is_64bit" }
    pure (.str (if wide.truthy then "rip" else "eip"))
  else pure register

def settle (failure : Fault) : Option Value → m Value
  | some v => pure v
  | Option.none => throwThe Fault failure

def readRegister (register : Value) : m Value := do
  let name ← resolve link register
  let outcome ← submit link "ReadRegisterCallable"
    (attempt (link.send { path := "idc.get_reg_value", args := [name] }))
  settle (.register "") outcome

def writeRegister (register value : Value) : m Value := do
  let name ← resolve link register
  let outcome ← submit link "WriteRegisterCallable"
    (attempt (link.send { path := "idc.set_reg_value", args := [value, name] }))
  settle (.register "") outcome

/-- Reads memory; the call is not guarded, and a reply that is not true is a failure. -/
def readMemory (address nbytes : Value) : m Value := do
  let _ ← liftFault (Value.interpolate "ida target read_memory at %x " (.one address))
  let outcome ← submit link "ReadMemoryCallable" (do
    let _ ← liftFault (Value.interpolate "ida target reads memory at %x" (.one address))
    let reply ← link.send { path := "idc.read_dbg_memory", args := [address, nbytes] }
    pure (if reply.truthy then some reply else Option.none))
  settle (.memory "") outcome

def writeMemory (address value : Value) : m Value := do
  let encoded ← liftFault value.hexEncoded
  let _ ← liftFault (Value.interpolate "gdb target write memory at %x value %s "
    (.many [address, .str encoded]))
  let outcome ← submit link "WriteMemoryCallable" (attempt (do
    let encoded ← liftFault value.hexEncoded
    let _ ← liftFault (Value.interpolate "gdb target write memory at %x value %s "
      (.many [address, .str encoded]))
    link.send { path := "idc.write_dbg_memory", args := [address, value] }))
  settle (.memory "") outcome

/-- Sets an execution breakpoint, in hardware when asked, else in software, and enables it.
The reply of enabling is written into a log line inside the action, so a reply that has no
text fails the action too. -/
def setBreakpoint (address hardware : Value) : m Value := do
  let _ ← liftFault (Value.interpolate "ida target set_breakpoint at %x " (.one address))
  let outcome ← submit link "SetBreakpointCallable" (attempt (do
    let flag : Nat := if hardware.truthy then api.bptExec else api.bptSoft ||| api.bptExec
    let _ ← link.send { path := "idc.add_bpt", args := [address, .int (flag : Int)] }
    let enabled ← link.send { path := "idc.enable_bpt", args := [address, .bool true] }
    let _ ← liftFault (Value.interpolate "bp flag value %x enable_res %s"
      (.many [.int (flag : Int), enabled]))
    pure enabled))
  settle (.breakpoint "") outcome

def removeBreakpoint (address : Value) : m Value := do
  let _ ← liftFault (Value.interpolate "ida_target removing breakpoint at %x " (.one address))
  let outcome ← submit link "DeleteBreakpointCallable"
    (attempt (link.send { path := "idc.del_bpt", args := [address] }))
  settle (.breakpoint "") outcome

/-- Adds a one-byte read-write watchpoint and enables it: the reply of setting its type if
that is false, else the reply of enabling it. -/
def setWatchpoint (address : Value) : m Value := do
  link.notify { path := "idc.add_bpt", args := [address] }
  let _ ← liftFault (Value.interpolate "ida target set_watchpoing at %x value" (.one address))
  link.notify { path := "idc.set_bpt_attr", args := [address, .int api.bptAttrSize, .int 1] }
  let typed ← link.send
    { path := "idc.set_bpt_attr", args := [address, .int api.bptAttrType, .int api.bptRdwr] }
  let enabled ← link.send { path := "idc.enable_bpt", args := [address, .bool true] }
  pure (if typed.truthy then enabled else typed)

def annotate (kind : String) (addresses : List Value) (c : Call) : m Value := do
  let outcome ← submit link kind (attempt (do
    for a in addresses do
      let _ ← liftFault a.hexLiteral
    link.send c))
  settle (.raised "") outcome

def makeUnknown (address size : Value) : m Value :=
  annotate link "MakeUnknown" [address] { path := "idc.MakeUnkn", args := [address, size] }

def makeCode (address : Value) : m Value :=
  annotate link "MakeCode" [address] { path := "idc.MakeCode", args := [address] }

def makeFunction (address : Value) : m Value :=
  annotate link "MakeFunction" [address] { path := "idc.MakeFunction", args := [address] }

def makeComment (address text : Value) : m Value :=
  annotate link "MakeComment" [address] { path := "idc.MakeComm", args := [address, text] }

def setLineColor (color address : Value) : m Value :=
  annotate link "SetLineColor" [] { path := "idc.SetColor", args := [address, .int api.colorItem, color] }

/-- Moves the end of a function. Unlike the other annotations, the action also writes the
reply into a log line, so a reply that has no text fails it. -/
def editFunctionBoundaries (start stop : Value) : m Value := do
  let outcome ← submit link "EditFunctionBoundaries" (attempt (do
    for a in [start, stop] do
      let _ ← liftFault a.hexLiteral
    let reply ← link.send { path := "ida_funcs.set_func_end", args := [start, stop] }
    let _ ← liftFault reply.renderLimited
    pure reply))
  settle (.raised "") outcome

/-- The region a module record describes, from its base, size and name. The region is
built from three fields, without a file offset, and so never comes about. -/
def regionOfModule (module : Value) : Except Fault MemoryMap := do
  let base ← module.attr "base"
  let again ← module.attr "base"
  let size ← module.attr "size"
  let stop ← again.add size
  let name ← module.attr "name"
  MemoryMap.ofArgs [base, stop, name]

def mappings : m Value := do
  let outcome ← submit link "GetMappings" (attempt (link.send { path := "idc._get_modules" }))
  let modules ← settle (.raised "") outcome
  let xs ← liftFault modules.items
  let regions ← xs.mapM fun x => liftFault (regionOfModule x)
  pure (.list (regions.map MemoryMap.toValue))

/-- Resumes the process and waits until it suspends; a failure is ignored. -/
def run : m Value := do
  let _ ← submit link "ResumeAndWaitBreakpoint" (attempt (do
    link.notify { path := "idaapi.continue_process" }
    link.notify { path := "idc.GetDebuggerEvent", args := [.int api.waitSuspend, .int (-1)] }
    let pc ← link.send { path := "idc.get_reg_value", args := [.str "eip"] }
    let _ ← liftFault pc.hexLiteral
    pure .none))
  pure .none

def repeatAction (action : m Value) : Nat → m Unit
  | 0 => pure ()
  | n + 1 => do
    let _ ← action
    repeatAction action n

/-- Runs `code` at the image base and returns what `register` holds when it stops. The
code is written at the image base, marked as code once per byte, and run from there to a
breakpoint two bytes before its end; then `eip`, the breakpoint, the bytes and the register
are put back. The values read on the way are written into log lines first, so one that
has no hex digits, or bytes that cannot write themselves as hex, stop the sequence. -/
def inject (code register : Value) : m Value := do
  let n ← liftFault code.length
  let _ ← liftFault code.hexEncoded
  let base ← link.send { path := "idaapi.get_imagebase" }
  let savedPc ← readRegister link (.str "eip")
  let _ ← liftFault (Value.interpolate "current pc %x" (.one savedPc))
  let saved ← readMemory link base (.int n)
  let _ ← liftFault saved.hexEncoded
  let savedRegister ← readRegister link register
  let _ ← liftFault (Value.interpolate "exfiltration reg %s value %x" (.many [register, savedRegister]))
  let _ ← writeMemory link base code
  let _ ← makeUnknown link base (.int n)
  let baseText ← liftFault base.renderLimited
  link.print ("making code at " ++ baseText ++ " size " ++ toString n ++ "\n")
  let past ← liftFault (base.add (.int n))
  let _ ← liftFault base.toIndex
  let _ ← liftFault past.toIndex
  repeatAction (makeCode link base) n
  let stop ← liftFault (do let e ← base.add (.int n); e.sub (.int 2))
  let _ ← setBreakpoint link api stop (.bool false)
  let _ ← writeRegister link (.str "eip") base
  let _ ← run link api
  let result ← readRegister link register
  let _ ← liftFault result.hexLiteral
  let _ ← writeRegister link (.str "eip") savedPc
  let current ← readRegister link (.str "eip")
  let _ ← liftFault (Value.interpolate "Current eip value is %x " (.one current))
  let _ ← removeBreakpoint link stop
  let _ ← writeMemory link base saved
  let _ ← writeRegister link register savedRegister
  pure result

end IdaTarget

end DebugBridge
