import Mathlib.Logic.Function.Basic
import Mathlib.Order.Basic
/-!
# A stopped process, as a debugger holds it

The debugger models behind the adapters' proofs keep the same two things of the process
under them: a byte at every address and an integer in every named register. Addresses are
integers, as the adapters compute them; a model is free to hold bytes at addresses no real
process maps.

Reading and writing runs of bytes are defined once here, with the fact every restoring
argument rests on (`memory_writeBytes_bytesAt`): writing back a run read earlier puts back
exactly the bytes of that run, and leaves every other byte as the write found it.
-/

namespace DebugBridge

set_option autoImplicit false

/-- The memory and registers of a stopped process. -/
structure Machine where
  memory : Int → UInt8
  registers : String → Int

namespace Machine

def bytesAt (machine : Machine) (address : Int) (count : Nat) : List UInt8 :=
  (List.range count).map fun offset : Nat => machine.memory (address + offset)

def writeBytes (machine : Machine) (address : Int) (bytes : List UInt8) : Machine :=
  { machine with
    memory := fun at_ =>
      if address ≤ at_ ∧ at_ < address + bytes.length then bytes.getD (at_ - address).toNat 0
      else machine.memory at_ }

def setRegister (machine : Machine) (name : String) (value : Int) : Machine :=
  { machine with registers := Function.update machine.registers name value }

variable (machine : Machine)

@[simp] theorem bytesAt_length (address : Int) (count : Nat) :
    (machine.bytesAt address count).length = count := by
  simp [bytesAt]

@[simp] theorem writeBytes_registers (address : Int) (bytes : List UInt8) :
    (machine.writeBytes address bytes).registers = machine.registers := rfl

@[simp] theorem setRegister_memory (name : String) (value : Int) :
    (machine.setRegister name value).memory = machine.memory := rfl

@[simp] theorem setRegister_registers (name : String) (value : Int) :
    (machine.setRegister name value).registers = Function.update machine.registers name value :=
  rfl

theorem getD_bytesAt {address : Int} {count index : Nat} (inside : index < count) :
    (machine.bytesAt address count).getD index 0 = machine.memory (address + index) := by
  simp [bytesAt, inside]

theorem memory_writeBytes (address at_ : Int) (bytes : List UInt8) :
    (machine.writeBytes address bytes).memory at_ =
      if address ≤ at_ ∧ at_ < address + bytes.length then bytes.getD (at_ - address).toNat 0
      else machine.memory at_ := rfl

theorem memory_writeBytes_of_outside {address at_ : Int} (bytes : List UInt8)
    (outside : at_ < address ∨ address + bytes.length ≤ at_) :
    (machine.writeBytes address bytes).memory at_ = machine.memory at_ := by
  rw [memory_writeBytes, if_neg (by omega)]

theorem bytesAt_writeBytes (address : Int) (bytes : List UInt8) :
    (machine.writeBytes address bytes).bytesAt address bytes.length = bytes := by
  apply List.ext_getElem
  · simp
  · intro index _ inBytes
    have inside : address ≤ address + index ∧ address + index < address + bytes.length := by omega
    have offset : (address + index - address).toNat = index := by omega
    rw [List.getElem_eq_getD 0, getD_bytesAt _ inBytes, memory_writeBytes, if_pos inside, offset]
    exact (List.getElem_eq_getD 0).symm

@[simp] theorem setRegister_self (name : String) :
    machine.setRegister name (machine.registers name) = machine := by
  simp [setRegister]

/-- Writing back `count` bytes read from `saved` at the same address: inside the run the
bytes are `saved`'s, outside it they are the current machine's. -/
theorem memory_writeBytes_bytesAt (saved : Machine) (address at_ : Int) (count : Nat) :
    (machine.writeBytes address (saved.bytesAt address count)).memory at_ =
      if address ≤ at_ ∧ at_ < address + count then saved.memory at_ else machine.memory at_ := by
  rw [memory_writeBytes, bytesAt_length]
  by_cases inside : address ≤ at_ ∧ at_ < address + count
  · have offset : (at_ - address).toNat < count := by omega
    have back : address + ((at_ - address).toNat : Int) = at_ := by omega
    rw [if_pos inside, if_pos inside, getD_bytesAt saved offset, back]
  · rw [if_neg inside, if_neg inside]

end Machine

end DebugBridge
