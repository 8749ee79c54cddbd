import DebugBridge.Injection
import DebugBridge.Proofs.Stepping
/-!
# What code injection does to a store

`Primitives.inject` is sixteen calls on a target's primitives. A `StoreModel` says what each
read returns and what state each write, breakpoint and resumption leaves; `InjectionSteps`
lists the sixteen facts about the target that injection relies on, one per call. From them
`inject_run` gives the result, the register at the stop, and the state `StoreModel.restored`.
The first twelve calls are `RestoringSteps` on their own, so a target whose restoring write
of the register fails makes injection fail with it (`inject_fails_restoring`).
-/

namespace DebugBridge

set_option autoImplicit false

/-- How a debugger's state answers the primitives of code injection when they succeed:
the value of each register, the bytes a read returns, and the state each write, breakpoint
and resumption leaves. -/
structure StoreModel (σ : Type) where
  register : σ → String → Int
  read : σ → Int → Nat → List UInt8
  write : σ → Int → List UInt8 → σ
  setRegister : σ → String → Int → σ
  breakAt : σ → Int → σ
  resume : σ → σ

namespace StoreModel

variable {σ : Type} (store : StoreModel σ) (s : σ) (code : List UInt8) (register : String)

def pc : Int := store.register s "pc"

def written : σ := store.write s (store.pc s) code

def planted : σ := store.breakAt (store.written s code) (store.pc s + code.length)

def stopped : σ := store.resume (store.planted s code)

def pcRestored : σ := store.setRegister (store.stopped s code) "pc" (store.pc s)

def bytesRestored : σ :=
  store.write (store.pcRestored s code) (store.pc s) (store.read s (store.pc s) code.length)

def restored : σ :=
  store.setRegister (store.bytesRestored s code) register (store.register s register)

end StoreModel

/-- The first twelve calls of code injection, up to the write that puts the register back,
each doing what the store says from the state the calls before it leave. The register reads
as `saved` at the start and as `result` where the code stops. Reads return integers and
bytes; what a write returns is not used. -/
structure RestoringSteps {σ : Type} (t : Primitives (Run σ)) (store : StoreModel σ) (s : σ)
    (code : List UInt8) (register : String) (saved result : Int) : Prop where
  readPc : (t.readRegister (.str "pc")).run s = .ok (.int (store.pc s), s)
  saveBytes : (t.readMemory (.int (store.pc s)) (.int code.length)).run s =
    .ok (.bytes (store.read s (store.pc s) code.length), s)
  saveRegister : (t.readRegister (.str register)).run s = .ok (.int saved, s)
  writeCode : ∃ v, (t.writeMemory (.int (store.pc s)) (.bytes code)).run s =
    .ok (v, store.written s code)
  readBack : ∃ bytes, (t.readMemory (.int (store.pc s)) (.int code.length)).run
    (store.written s code) = .ok (.bytes bytes, store.written s code)
  plant : ∃ v, (t.setBreakpoint (.int (store.pc s + code.length)) [("temporary", .bool true)]).run
    (store.written s code) = .ok (v, store.planted s code)
  resume : ∃ v, t.resume.run (store.planted s code) = .ok (v, store.stopped s code)
  readStopPc : (t.readRegister (.str "pc")).run (store.stopped s code) =
    .ok (.int (store.register (store.stopped s code) "pc"), store.stopped s code)
  readResult : (t.readRegister (.str register)).run (store.stopped s code) =
    .ok (.int result, store.stopped s code)
  restorePc : ∃ v, (t.writeRegister (.str "pc") (.int (store.pc s))).run (store.stopped s code) =
    .ok (v, store.pcRestored s code)
  readRestoredPc : (t.readRegister (.str "pc")).run (store.pcRestored s code) =
    .ok (.int (store.register (store.pcRestored s code) "pc"), store.pcRestored s code)
  restoreBytes : ∃ v, (t.writeMemory (.int (store.pc s))
    (.bytes (store.read s (store.pc s) code.length))).run (store.pcRestored s code) =
      .ok (v, store.bytesRestored s code)

/-- The sixteen calls of code injection, each doing what the store says: the register reads
as the store holds it, and the last four calls put it back and read everything again. -/
structure InjectionSteps {σ : Type} (t : Primitives (Run σ)) (store : StoreModel σ) (s : σ)
    (code : List UInt8) (register : String) : Prop extends
    RestoringSteps t store s code register (store.register s register)
      (store.register (store.stopped s code) register) where
  restoreRegister : ∃ v, (t.writeRegister (.str register) (.int (store.register s register))).run
    (store.bytesRestored s code) = .ok (v, store.restored s code register)
  readFinalPc : (t.readRegister (.str "pc")).run (store.restored s code register) =
    .ok (.int (store.register (store.restored s code register) "pc"), store.restored s code register)
  readFinalRegister : (t.readRegister (.str register)).run (store.restored s code register) =
    .ok (.int (store.register (store.restored s code register) register),
      store.restored s code register)
  readFinalBytes : ∃ bytes, (t.readMemory (.int (store.register (store.restored s code register) "pc"))
    (.int code.length)).run (store.restored s code register) =
      .ok (.bytes bytes, store.restored s code register)

section Steps

variable {σ : Type} {t : Primitives (Run σ)} {store : StoreModel σ} {s : σ} {code : List UInt8}
  {register : String}

theorem inject_run_to_restore {saved result : Int}
    (steps : RestoringSteps t store s code register saved result) :
    (t.inject (.bytes code) (.str register)).run s = (do
      let _ ← t.writeRegister (.str register) (.int saved)
      let finalPc ← t.readRegister (.str "pc")
      let finalValue ← t.readRegister (.str register)
      let finalBytes ← t.readMemory finalPc (.int code.length)
      let _ ← liftFault (Value.interpolate "pc %x eax value %x instr content %s "
        (.many [finalPc, finalValue, finalBytes]))
      pure (Value.int result)).run (store.bytesRestored s code) := by
  obtain ⟨readPc, saveBytes, saveRegister, ⟨_, writeCode⟩, ⟨_, readBack⟩, ⟨_, plant⟩, ⟨_, resume⟩,
    readStopPc, readResult, ⟨_, restorePc⟩, readRestoredPc, ⟨_, restoreBytes⟩⟩ := steps
  unfold Primitives.inject
  rw [Value.length_bytes code, run_bind_ok run_liftFault_ok, Value.renderLimited_bytes,
    run_bind_ok run_liftFault_ok]
  -- save the program counter, the bytes under the code and the register
  rw [run_bind_ok readPc, liftFault_interpolate_bind rfl, run_bind_ok saveBytes,
    Value.renderLimited_bytes, run_bind_ok run_liftFault_ok,
    run_bind_ok saveRegister, liftFault_interpolate_bind rfl]
  -- write the code, plant the breakpoint past it and run to it
  rw [run_bind_ok writeCode, run_bind_ok readBack, Value.renderLimited_bytes,
    run_bind_ok run_liftFault_ok, Value.add_int (store.pc s) code.length,
    run_bind_ok run_liftFault_ok, liftFault_interpolate_bind rfl,
    run_bind_ok plant, run_bind_ok resume]
  -- read the result, put the program counter and the bytes back
  rw [run_bind_ok readStopPc, liftFault_interpolate_bind rfl, run_bind_ok readResult,
    liftFault_interpolate_bind rfl, run_bind_ok restorePc, run_bind_ok readRestoredPc,
    liftFault_interpolate_bind rfl, run_bind_ok restoreBytes]

/-- Code injection over a target that behaves as a store: it returns the register as it
stands where the code stops, and leaves the store as `StoreModel.restored` says. -/
theorem inject_run (steps : InjectionSteps t store s code register) :
    (t.inject (.bytes code) (.str register)).run s =
      .ok (.int (store.register (store.stopped s code) register), store.restored s code register) := by
  obtain ⟨_, restoreRegister⟩ := steps.restoreRegister
  obtain ⟨_, readFinalBytes⟩ := steps.readFinalBytes
  rw [inject_run_to_restore steps.toRestoringSteps, run_bind_ok restoreRegister,
    run_bind_ok steps.readFinalPc, run_bind_ok steps.readFinalRegister,
    run_bind_ok readFinalBytes, liftFault_interpolate_bind rfl]
  rfl

/-- When the calls up to the restoring write behave as the store says and that write fails,
injection fails with the write's fault. -/
theorem inject_fails_restoring {saved result : Int} {e : Fault}
    (steps : RestoringSteps t store s code register saved result)
    (refused : (t.writeRegister (.str register) (.int saved)).run (store.bytesRestored s code) =
      .error e) :
    (t.inject (.bytes code) (.str register)).run s = .error e := by
  rw [inject_run_to_restore steps, run_bind_error refused]

end Steps

end DebugBridge
