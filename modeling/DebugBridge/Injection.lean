import DebugBridge.Link
import DebugBridge.Value.Format
/-!
# Running a piece of code inside the target

To learn a value that only the target's own instructions can compute (a segment base, say),
an adapter writes a short piece of machine code at the current instruction, runs it up to a
breakpoint just past its end, reads the result register, and puts back the bytes, the
program counter and the register. `inject` is that sequence over a target's `Primitives`.
It also writes the values it reads into log lines, the registers in hex and the code and
the bytes under it as text, so a reply with no hex digits, or an integer too long for
decimal text, stops it there.
-/

namespace DebugBridge

set_option autoImplicit false

/-- The operations of a target that code injection uses. -/
structure Primitives (m : Type → Type) where
  readMemory : Value → Value → m Value
  writeMemory : Value → Value → m Value
  readRegister : Value → m Value
  writeRegister : Value → Value → m Value
  /-- Sets a breakpoint at an address, with keyword options. -/
  setBreakpoint : Value → List (String × Value) → m Value
  resume : m Value

namespace Primitives

variable {m : Type → Type} [Monad m] [MonadExceptOf Fault m]

def unsupported : Primitives m where
  readMemory _ _ := throwThe Fault .unsupported
  writeMemory _ _ := throwThe Fault .unsupported
  readRegister _ := throwThe Fault .unsupported
  writeRegister _ _ := throwThe Fault .unsupported
  setBreakpoint _ _ := throwThe Fault .unsupported
  resume := throwThe Fault .unsupported

/-- Runs `code` at the program counter and returns what `register` holds when it stops:
save the bytes under the code and the register, write the code, break just past it, run,
read the register, then restore the program counter, the bytes and the register, and read
them back. -/
def inject (t : Primitives m) (code register : Value) : m Value := do
  let n ← liftFault code.length
  -- the code's text is logged with its length, whose text always fits: no sequence is
  -- 2 ^ 63 long
  let _ ← liftFault code.renderLimited
  let pc ← t.readRegister (.str "pc")
  let _ ← liftFault (Value.interpolate "current pc %x" (.one pc))
  let saved ← t.readMemory pc (.int n)
  let _ ← liftFault saved.renderLimited
  let savedRegister ← t.readRegister register
  let _ ← liftFault (Value.interpolate "exfiltration reg %s value %x" (.many [register, savedRegister]))
  let _ ← t.writeMemory pc code
  let written ← t.readMemory pc (.int n)
  let _ ← liftFault written.renderLimited
  let stop ← liftFault (pc.add (.int n))
  let _ ← liftFault (Value.interpolate "setting breakpoint at address %#x" (.one stop))
  let _ ← t.setBreakpoint stop [("temporary", .bool true)]
  let _ ← t.resume
  let stopped ← t.readRegister (.str "pc")
  let _ ← liftFault (Value.interpolate "current pc %x" (.one stopped))
  let result ← t.readRegister register
  let _ ← liftFault (Value.interpolate "result value %x " (.one result))
  let _ ← t.writeRegister (.str "pc") pc
  let restored ← t.readRegister (.str "pc")
  let _ ← liftFault (Value.interpolate "current pc %x" (.one restored))
  let _ ← t.writeMemory pc saved
  let _ ← t.writeRegister register savedRegister
  let finalPc ← t.readRegister (.str "pc")
  let finalValue ← t.readRegister register
  let finalBytes ← t.readMemory finalPc (.int n)
  let _ ← liftFault (Value.interpolate "pc %x eax value %x instr content %s "
    (.many [finalPc, finalValue, finalBytes]))
  pure result

end Primitives

end DebugBridge
