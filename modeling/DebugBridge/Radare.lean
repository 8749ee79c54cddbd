import DebugBridge.Injection
import DebugBridge.MemoryMap
import DebugBridge.Text.Base64
/-!
# A target behind radare2

The adapter for a process debugged in radare2, driven by command strings: `cmd` returns
the command's text output and `cmdj` its output read as data. Addresses go into commands
as hex literals, except in the watchpoint command, which takes decimal. Register names
`pc`, `sp` and `bp` are aliases that radare2 resolves (`drn`). Every write of a register is
read back, and every breakpoint change is checked against the breakpoint list (`dbj`).
-/

namespace DebugBridge

namespace Radare

set_option autoImplicit false

variable {m : Type → Type} [Monad m] [MonadExceptOf Fault m] (link : Link m)

def cmd (command : String) : m Value :=
  link.send { path := "cmd", args := [.str command] }

def cmdj (command : String) : m Value :=
  link.send { path := "cmdj", args := [.str command] }

/-- `any` over the elements of `entries` that satisfy `test`: true at the first one that
satisfies it and is itself true. Testing an entry may fail, and stops the scan. -/
def anyEntry (entries : Value) (test : Value → Except Fault Bool) : Except Fault Bool := do
  let xs ← entries.items
  xs.anyM fun x => do
    let hit ← test x
    pure (hit && x.truthy)

def atAddress (address x : Value) : Except Fault Bool := do
  let a ← x.index (.str "addr")
  pure (Value.same a address)

def hardwareAt (address x : Value) : Except Fault Bool := do
  let a ← x.index (.str "addr")
  if Value.same a address then
    let hw ← x.index (.str "hw")
    pure (Value.same hw (.bool true))
  else pure false

/-- Reads `nbytes` bytes at `address`, which must lie in a mapped page. -/
def readMemory (address nbytes : Value) : m Value := do
  let _ ← liftFault (Value.interpolate "R2ConcreteTarget read_memory at %x " (.one address))
  let at_ ← liftFault address.hexLiteral
  let mapped ← cmd link ("dm.@" ++ at_)
  if Value.same mapped (.str "") then
    throwThe Fault (.memory ("R2ConcreteTarget can't read_memory at address " ++ at_ ++
      ". Page is not mapped."))
  let count ← liftFault nbytes.renderLimited
  let listing ← cmdj link ("pxj " ++ count ++ " @ " ++ at_)
  let bytes ← liftFault listing.toBytes
  pure (.bytes bytes)

def writeMemory (address value : Value) : m Value := do
  match value with
  | .bytes b =>
    let digits ← liftFault address.hexDigits
    rescue
      (do
        let at_ ← liftFault address.hexLiteral
        let _ ← cmd link ("w6d " ++ Text.base64 b ++ " @ " ++ at_)
        pure .none)
      (fun f => throwThe Fault (.memory ("R2ConcreteTarget write_memory at " ++ digits ++
        " value " ++ value.render ++ " exception " ++ f.message)))
  | _ => throwThe Fault (.assertion ("write_memory value is actually type " ++ value.kindText))

def resolve (register : Value) : m Value := do
  let aliases : List Value := [.str "pc", .str "sp", .str "bp"]
  if aliases.any (Value.same · register) then
    let name ← cmd link ("drn " ++ register.render)
    liftFault name.strip
  else pure register

/-- A vector register from its two halves in the register table: the `l` half shifted by
64, plus the `h` half. A missing half is `none`. -/
def joinHalves (registers register : Value) : Except Fault (Option Value) := do
  let lowName ← register.add (.str "l")
  match registers.index lowName with
  | .error (.missingKey _) => pure Option.none
  | .error f => throw f
  | .ok low =>
    let shifted ← low.shiftLeft (.int 64)
    let highName ← register.add (.str "h")
    match registers.index highName with
    | .error (.missingKey _) => pure Option.none
    | .error f => throw f
    | .ok high => some <$> shifted.add high

/-- Reads a register that needs no alias resolution from the register table. The name is
written for the log first; a failure there or in the backend is a register fault. -/
def readResolved (register : Value) : m Value := do
  let registers ← rescue
    (do
      let _ ← liftFault (Value.interpolate "R2ConcreteTarget read_register at %s " (.one register))
      cmdj link "drtj all")
    (fun f => do
      let name ← liftFault register.renderLimited
      throwThe Fault (.register ("R2ConcreteTarget can't read register " ++ name ++
        " exception " ++ f.message)))
  if ← liftFault (registers.contains register) then
    return ← liftFault (registers.index register)
  if ← liftFault (register.startsWith "xmm") then
    if let some v ← liftFault (joinHalves registers register) then
      return v
  let name ← liftFault register.renderLimited
  throwThe Fault (.register ("Unhandled register read of " ++ name))

def readRegister (register : Value) : m Value := do
  let name ← resolve link register
  readResolved link name

/-- Writes a register that the register table lists, then reads it back. -/
def writeRegister (register value : Value) : m Value := do
  let name ← resolve link register
  let registers ← cmdj link "drtj all"
  if !(← liftFault (registers.contains name)) then
    let nameText ← liftFault name.renderLimited
    throwThe Fault (.register ("R2ConcreteTarget write_register unhandled reg name of " ++
      nameText))
  let nameText ← liftFault name.renderLimited
  let _ ← liftFault value.hexDigits
  let valueText ← liftFault value.renderLimited
  let _ ← cmd link ("dr " ++ nameText ++ "=" ++ valueText)
  let back ← readRegister link name
  if !(Value.same back value) then
    let literal ← liftFault value.hexLiteral
    throwThe Fault (.register ("R2ConcreteTarget write_register failed to correctly set register " ++
      nameText ++ "=" ++ literal))
  pure .none

def breakpointFault (what : String) (address : Value) : m Value := do
  let text ← liftFault (Value.interpolate ("R2ConcreteTarget failed to " ++ what ++ " at %x")
    (.one address))
  throwThe Fault (.breakpoint text)

/-- Sets a software breakpoint and checks that the list shows it. -/
def setBreakpoint (address : Value) : m Value := do
  let _ ← liftFault (Value.interpolate "R2ConcreteTarget set_breakpoint at %x " (.one address))
  let at_ ← liftFault address.hexLiteral
  let _ ← cmd link ("db " ++ at_)
  let entries ← cmdj link "dbj"
  if !(← liftFault (anyEntry entries (atAddress address))) then
    breakpointFault "set_breakpoint" address
  else pure .none

def removeBreakpoint (address : Value) : m Value := do
  let _ ← liftFault (Value.interpolate "R2ConcreteTarget remove_breakpoint at %x " (.one address))
  let at_ ← liftFault address.hexLiteral
  let _ ← cmd link ("db-" ++ at_)
  let entries ← cmdj link "dbj"
  if ← liftFault (anyEntry entries (atAddress address)) then
    breakpointFault "remove_breakpoint" address
  else pure .none

/-- Sets a hardware watchpoint for reads, writes or both, as the options `read` and `write`
ask, and checks that the list shows it. The command takes the address as plain text. -/
def setWatchpoint (address : Value) (options : List (String × Value)) : m Value := do
  let read := (Value.lookup "read" options).getD (.bool false)
  let write := (Value.lookup "write" options).getD (.bool false)
  let mode := (if read.truthy then "r" else "") ++ (if write.truthy then "w" else "")
  if mode == "" then
    let at_ ← liftFault address.hexLiteral
    throwThe Fault (.breakpoint ("R2ConcreteTarget set_watchpoint invalid watch requested for address " ++
      at_ ++ ". Must specify type of watchpoint."))
  let _ ← liftFault (Value.interpolate "R2ConcreteTarget target set_watchpoing at %x value" (.one address))
  let at_ ← liftFault address.renderLimited
  let _ ← cmd link ("dbw " ++ at_ ++ " " ++ mode)
  let entries ← cmdj link "dbj"
  if !(← liftFault (anyEntry entries (hardwareAt address))) then
    breakpointFault "set_breakpoint" address
  else pure .none

/-- The offset of a section in its file: its start less the start of the first file entry
with the same file. Any failure on the way leaves no offset. -/
def offsetIn (files area start : Value) : Except Fault (Option Value) := do
  let xs ← files.items
  let found ← xs.findM? fun x => do
    let f ← x.index (.str "file")
    let g ← area.index (.str "file")
    pure (Value.same f g)
  match found with
  | some entry =>
    let base ← entry.index (.str "addr")
    some <$> start.sub base
  | Option.none => pure Option.none

def regionOfSection (files area : Value) : Except Fault MemoryMap := do
  let start ← area.index (.str "addr")
  let stop ← area.index (.str "addr_end")
  let offset := match offsetIn files area start with
    | .ok (some v) => v
    | _ => .int 0
  let name ← area.index (.str "file")
  pure ⟨start, stop, offset, name⟩

/-- The regions of the process: its sections (`dmj`), each with its offset in the file it
maps (`dmmj`). -/
def mappings : m Value := do
  let sections ← cmdj link "dmj"
  let files ← cmdj link "dmmj"
  let xs ← liftFault sections.items
  let regions ← xs.mapM fun s => liftFault (regionOfSection files s)
  pure (.list (regions.map MemoryMap.toValue))

def binaryField (field : String) : m Value := do
  let info ← cmdj link "iAj"
  liftFault do
    let bins ← info.index (.str "bins")
    let first ← bins.index (.int 0)
    first.index (.str field)

def run : m Value := do
  let _ ← cmd link "dc"
  pure .none

def exit : m Value := do
  link.notify { path := "quit" }
  pure .none

def primitives : Primitives m where
  readMemory := readMemory link
  writeMemory := writeMemory link
  readRegister := readRegister link
  writeRegister := writeRegister link
  setBreakpoint := fun address _ => setBreakpoint link address
  resume := run link

end Radare

end DebugBridge
