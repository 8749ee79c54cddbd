import DebugBridge.Injection
import DebugBridge.Gdb.ProcMappings
import DebugBridge.TargetState
/-!
# A target behind gdb

The adapter for a process under a gdb server. It opens a session that owns one gdb target;
calls to the session go to the paths `avatar.*`, calls to the target to `target.*`. Memory
reads stay inside one page: a read that would cross the end of the page holding its first
byte is cut at that end. A register that gdb reports as a list of 32-bit words (the vector
registers) is read as one integer, word `i` shifted by `32 * i`. Failures of the backend
come back as memory or register faults that quote the backend's text.
-/

namespace DebugBridge

set_option autoImplicit false

/-- What the adapter keeps: the architecture it was opened for and the page size that
bounds a single read. -/
structure GdbTarget where
  architecture : Value
  pageSize : Value := .int 0x1000
  deriving Inhabited

namespace GdbTarget

variable {m : Type → Type} [Monad m] [MonadExceptOf Fault m] (link : Link m)

def connect (architecture ip port : Value) : m GdbTarget := do
  link.notify { path := "Avatar", options := [("arch", architecture)] }
  link.notify {
    path := "avatar.add_target", args := [.kindRef "GDBTarget"],
    options := [("gdb_executable", .str "gdb-multiarch"), ("gdb_ip", ip), ("gdb_port", port)] }
  link.notify { path := "avatar.init_targets" }
  pure { architecture }

def pageEnd (t : GdbTarget) (address : Value) : Except Fault Value := do
  let mask ← t.pageSize.sub (.int 1)
  let last ← address.bitOr mask
  last.add (.int 1)

def readCount (t : GdbTarget) (address nbytes : Value) : Except Fault Int := do
  let limit ← t.pageEnd address
  let wanted ← address.add nbytes
  let count ← if ← wanted.greater limit then limit.sub address else pure nbytes
  count.toInt

/-- Reads up to `nbytes` bytes at `address`, never past the end of its page. The address
is first written in hex for the log; any failure from there on, that one included, is
reported as a memory fault that writes the address in hex again, so an address that has
no hex digits fails with that instead. -/
def readMemory (t : GdbTarget) (address nbytes : Value) : m Value :=
  rescue
    (do
      let _ ← liftFault (Value.interpolate "AvatarGDBConcreteTarget read_memory at %x " (.one address))
      let count ← liftFault (t.readCount address nbytes)
      link.send {
        path := "target.read_memory", args := [address, .int 1, .int count],
        options := [("raw", .bool true)] })
    (fun f => do
      let text ← liftFault (Value.interpolate
        "AvatarGDBConcreteTarget can't read_memory at address %x exception %s"
        (.many [address, .str f.message]))
      throwThe Fault (.memory text))

/-- Writes `value` at `address`; a reply that is not true is a failure. The failure and
any fault of the backend are reported as a memory fault that quotes the inner text. -/
def writeMemory (address value : Value) : m Value :=
  rescue
    (do
      let reply ← link.send {
        path := "target.write_memory", args := [address, .int 1, value],
        options := [("raw", .bool true)] }
      if !reply.truthy then
        let _ ← liftFault (Value.interpolate "AvatarGDBConcreteTarget failed write_memory at %x value %s"
          (.many [address, value]))
        let text ← liftFault (Value.interpolate
          "AvatarGDBConcreteTarget failed write_memory to address %x" (.one address))
        throwThe Fault (.memory text)
      pure .none)
    (fun f => do
      let text ← liftFault (Value.interpolate
        "AvatarGDBConcreteTarget write_memory at %x value %s exception %s"
        (.many [address, value, .str f.message]))
      throwThe Fault (.memory text))

/-- The integer whose 32-bit word `i` is the `i`-th element, as a bitwise or of the
shifted elements. -/
def joinWords (words : List Value) : Except Fault Value :=
  words.zipIdx.foldlM (fun acc (w, i) => do
    let shifted ← w.shiftLeft (.int (32 * i))
    acc.bitOr shifted) (.int 0)

/-- Reads a register; a list of words is joined into one integer. The register's name is
written for the log first, and a failure there or in the backend is a register fault. -/
def readRegister (register : Value) : m Value := do
  let reply ← rescue
    (do
      let _ ← liftFault (Value.interpolate "AvatarGDBConcreteTarget read_register at %s " (.one register))
      link.send { path := "target.read_register", args := [register] })
    (fun f => do
      let name ← liftFault register.renderLimited
      throwThe Fault (.register ("AvatarGDBConcreteTarget can't read register " ++ name ++
        " exception " ++ f.message)))
  match reply with
  | .list words => liftFault (joinWords words)
  | _ => pure reply

def writeRegister (register value : Value) : m Value := do
  let name ← liftFault register.renderLimited
  let digits ← liftFault value.hexDigits
  rescue
    (do
      let reply ← link.send { path := "target.write_register", args := [register, value] }
      if !reply.truthy then
        throwThe Fault (.register ("AvatarGDBConcreteTarget write_register failed reg " ++
          name ++ " value " ++ digits ++ " "))
      pure .none)
    (fun f => throwThe Fault (.register ("AvatarGDBConcreteTarget write_register exception write reg " ++
      name ++ " value " ++ digits ++ " " ++ f.message ++ " ")))

def refused (reply : Value) : Bool := Value.same reply (.int (-1))

def breakpointFault (address : Value) : m Value := do
  let text ← liftFault (Value.interpolate
    "AvatarGDBConcreteTarget failed to set_breakpoint at %x" (.one address))
  throwThe Fault (.breakpoint text)

def setBreakpoint (address : Value) (options : List (String × Value)) : m Value := do
  let _ ← liftFault (Value.interpolate "AvatarGDBConcreteTarget set_breakpoint at %x " (.one address))
  let reply ← link.send { path := "target.set_breakpoint", args := [address], options }
  if refused reply then breakpointFault address else pure .none

def removeBreakpoint (address : Value) (options : List (String × Value)) : m Value := do
  let _ ← liftFault (Value.interpolate "AvatarGDBConcreteTarget remove_breakpoint at %x " (.one address))
  let reply ← link.send { path := "target.remove_breakpoint", args := [address], options }
  if refused reply then breakpointFault address else pure .none

/-- Sets a watchpoint, passing the keyword options on; the address is not written before
the call. -/
def setWatchpoint (address : Value) (options : List (String × Value)) : m Value := do
  let reply ← link.send { path := "target.set_watchpoint", args := [address], options }
  if refused reply then breakpointFault address else pure .none

def mappings : m Value := do
  let reply ← link.send { path := "target.protocols.memory.get_mappings" }
  let table ← liftFault (reply.index (.int 1))
  let lines ← liftFault table.lines
  pure (.list ((Gdb.regionsOfTable lines).map MemoryMap.toValue))

def isRunning : m Value := do
  let status ← link.send { path := "target.get_status" }
  pure (.bool (Value.same status (.int TargetState.running.code)))

def run : m Value := do
  let running ← isRunning link
  if !running.truthy then
    link.notify { path := "target.cont" }
    link.notify { path := "target.wait" }
  pure .none

def stop : m Value := do
  link.notify { path := "target.stop" }
  pure .none

def shutdown : m Value := do
  link.notify { path := "target.shutdown" }
  pure .none

def exit : m Value := do
  link.notify { path := "avatar.shutdown" }
  pure .none

def primitives (t : GdbTarget) : Primitives m where
  readMemory := GdbTarget.readMemory link t
  writeMemory := GdbTarget.writeMemory link
  readRegister := GdbTarget.readRegister link
  writeRegister := GdbTarget.writeRegister link
  setBreakpoint := GdbTarget.setBreakpoint link
  resume := GdbTarget.run link

end GdbTarget

end DebugBridge
