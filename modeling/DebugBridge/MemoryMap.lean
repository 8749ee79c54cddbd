import DebugBridge.Signature
import DebugBridge.Value.Format
/-!
# Memory regions

A `MemoryMap` describes one region of the debugged process: where it starts and ends,
its offset in the file it maps, and that file's name, each as the backend reported it.
`MemoryMap.describe` writes the one-line summary of a region, which shows the two
addresses in hex and the name but not the offset.
-/

namespace DebugBridge

set_option autoImplicit false

/-- A region of the debugged process's memory. -/
structure MemoryMap where
  start : Value
  stop : Value
  offset : Value
  name : Value
  deriving Repr, Inhabited

namespace MemoryMap

def signature : Signature :=
  { owner := "MemoryMap.__init__", params := ["start_address", "end_address", "offset", "name"] }

def ofArgs (args : List Value) (kwargs : List (String × Value) := []) : Except Fault MemoryMap := do
  let b ← signature.bind args kwargs
  pure ⟨b.arg 0, b.arg 1, b.arg 2, b.arg 3⟩

def summaryTemplate : String := "MemoryMap[start_address: 0x%x | end_address: 0x%x | name: %s"

/-- The one-line summary: both addresses in hex, then the name. The addresses must be
integers. -/
def describe (r : MemoryMap) : Except Fault String :=
  Value.interpolate summaryTemplate (.many [r.start, r.stop, r.name])

def toValue (r : MemoryMap) : Value := .region r.start r.stop r.offset r.name

end MemoryMap

end DebugBridge
