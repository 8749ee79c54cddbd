import DebugBridge.Proofs.Ida.Debugger
/-!
# Running code in IDA's debugger

`IdaTarget.inject` writes the code at the image base, marks it as code, sets a breakpoint two
bytes before its end and runs from the base; then it puts back `eip`, deletes the breakpoint
by its address, and puts back the bytes and the register. `inject_run` is the whole run
against the faithful debugger. What was read is put back, but a breakpoint that stood at the
stop's address before the call goes with the deleted one (`inject_restores_but_drops_breakpoint`).
-/

namespace DebugBridge

set_option autoImplicit false

namespace IdaDebugger

variable (imageBase : Int) (wide : Bool) (program : Machine → Machine) (debugger : IdaDebugger)
  (code : List UInt8) (register : String) (api : IdaApi)

def stoppedMachine : Machine :=
  program ((debugger.machine.writeBytes imageBase code).setRegister "eip" imageBase)

def stopAddress : Int := imageBase + code.length - 2

/-- The debugger after an injection: the stopped process with `eip`, the bytes under the
code and the register put back in that order, and the stop's breakpoint deleted. -/
def afterInjection : IdaDebugger where
  machine :=
    (((stoppedMachine imageBase program debugger code).setRegister "eip"
      (debugger.machine.registers "eip")).writeBytes imageBase
        (debugger.machine.bytesAt imageBase code.length)).setRegister (resolve wide register)
      (debugger.machine.registers (resolve wide register))
  breakpoints := (insert (stopAddress imageBase code) debugger.breakpoints).erase
    (stopAddress imageBase code)

theorem inject_run (fits : Value.decimalFits imageBase) (nonempty : 0 < code.length) :
    (IdaTarget.inject (link imageBase wide program) api (.byteString code) (.str register)).run
      debugger = .ok (.int ((stoppedMachine imageBase program debugger code).registers (resolve wide register)),
        afterInjection imageBase wide program debugger code register) := by
  obtain ⟨encoded, hex⟩ : ∃ text, (Value.byteString code).hexEncoded = .ok text := ⟨_, rfl⟩
  obtain ⟨savedText, savedHex⟩ : ∃ text,
      (Value.byteString (debugger.machine.bytesAt imageBase code.length)).hexEncoded = .ok text :=
    ⟨_, rfl⟩
  have imageBaseRead : ((link imageBase wide program).send { path := "idaapi.get_imagebase" }).run
      debugger = .ok (.int imageBase, debugger) := rfl
  unfold IdaTarget.inject
  -- saving: the base, `eip`, the bytes under the code and the register
  rw [Value.length_byteString code, run_bind_ok run_liftFault_ok,
    hex, run_bind_ok run_liftFault_ok, run_bind_ok imageBaseRead,
    run_bind_ok (readRegister_run imageBase wide program debugger "eip"),
    liftFault_interpolate_bind rfl,
    run_bind_ok (readMemory_run imageBase wide program debugger imageBase nonempty),
    savedHex, run_bind_ok run_liftFault_ok,
    run_bind_ok (readRegister_run imageBase wide program debugger register),
    liftFault_interpolate_bind rfl]
  -- writing and marking the code, and the breakpoint at the stop
  rw [run_bind_ok (writeMemory_run imageBase wide program debugger imageBase code),
    run_bind_ok (makeUnknown_run imageBase wide program _ imageBase _),
    Value.renderLimited_int fits, run_bind_ok run_liftFault_ok, run_bind_ok (print_run _ _ _ _ _),
    Value.add_int imageBase code.length, run_bind_ok run_liftFault_ok,
    Value.toIndex_int imageBase, run_bind_ok run_liftFault_ok,
    Value.toIndex_int _, run_bind_ok run_liftFault_ok,
    run_bind_ok (repeatAction_run _ (makeCode_run imageBase wide program _ imageBase) code.length),
    show (Except.ok (Value.int (imageBase + code.length)) >>= fun e => e.sub (.int 2) :
        Except Fault Value) = .ok (.int (stopAddress imageBase code)) from rfl,
    run_bind_ok run_liftFault_ok,
    run_bind_ok (setBreakpoint_run imageBase wide program _ api _ _)]
  -- running to the stop and reading the register
  rw [run_bind_ok (writeRegister_run imageBase wide program _ "eip" imageBase),
    run_bind_ok (run_run imageBase wide program _ api),
    run_bind_ok (readRegister_run imageBase wide program _ register),
    Value.hexLiteral_int, run_bind_ok run_liftFault_ok]
  -- putting back `eip`, the breakpoint, the bytes and the register
  rw [run_bind_ok (writeRegister_run imageBase wide program _ "eip" _),
    run_bind_ok (readRegister_run imageBase wide program _ "eip"),
    liftFault_interpolate_bind rfl,
    run_bind_ok (removeBreakpoint_run imageBase wide program _ _),
    run_bind_ok (writeMemory_run imageBase wide program _ imageBase _),
    run_bind_ok (writeRegister_run imageBase wide program _ register _)]
  rfl

/-- After an injection `eip`, the register and the bytes under the code are as they were,
and the result is the register at the stop. The breakpoint set is the old one without the
stop's address: it is the old one exactly when no breakpoint stood there. -/
theorem inject_restores_but_drops_breakpoint (imageBase : Int) (wide : Bool)
    (program : Machine → Machine) (api : IdaApi) (debugger : IdaDebugger) (code : List UInt8)
    (register : String) (fits : Value.decimalFits imageBase) (nonempty : 0 < code.length) :
    let r := resolve wide register
    let stop := imageBase + code.length - 2
    ∃ final, (IdaTarget.inject (link imageBase wide program) api (.byteString code)
        (.str register)).run debugger = .ok (.int ((stoppedMachine imageBase program debugger code).registers r), final) ∧
      final.machine.registers "eip" = debugger.machine.registers "eip" ∧
      final.machine.registers r = debugger.machine.registers r ∧
      (∀ at_, imageBase ≤ at_ → at_ < imageBase + code.length →
        final.machine.memory at_ = debugger.machine.memory at_) ∧
      final.breakpoints = debugger.breakpoints.erase stop ∧
      (final.breakpoints = debugger.breakpoints ↔ stop ∉ debugger.breakpoints) := by
  intro r stop
  have dropped : (afterInjection imageBase wide program debugger code register).breakpoints =
      debugger.breakpoints.erase stop := Finset.erase_insert_eq_erase _ _
  refine ⟨afterInjection imageBase wide program debugger code register,
    inject_run imageBase wide program debugger code register api fits nonempty, ?eip, ?register,
    ?bytes, dropped, ?restored⟩
  case eip =>
    -- the register is put back last, so when it is `eip` its saved value is the final one
    by_cases same : r = "eip"
    · simp [afterInjection, r, ← same]
    · simp [afterInjection, r, Function.update_of_ne (Ne.symm same)]
  case register => simp [afterInjection, r]
  case bytes =>
    intro at_ above below
    simp only [afterInjection, Machine.setRegister_memory]
    rw [Machine.memory_writeBytes_bytesAt, if_pos ⟨above, below⟩]
  case restored =>
    rw [dropped]
    exact Finset.erase_eq_self

/-- A debugger over a process of `nop`s stopped at `0x401000`, with a breakpoint at the image
base `0x400000`. -/
def sampleDebugger : IdaDebugger :=
  ⟨⟨fun _ => 0x90, fun name => if name = "eip" then 0x401000 else 0⟩, {0x400000}⟩

theorem inject_drops_sample_breakpoint :
    Value.decimalFits 0x400000 ∧ 0 < [0xcc, 0xcc].length ∧
      ∃ final, (IdaTarget.inject (link 0x400000 false fun m => m.setRegister "eax" 7) .idc
          (.byteString [0xcc, 0xcc]) (.str "eax")).run sampleDebugger = .ok (.int 7, final) ∧
        final.breakpoints = ∅ := by
  have fits : Value.decimalFits 0x400000 := Value.decimalFits_of_word (by decide)
  obtain ⟨final, ran, -, -, -, dropped, -⟩ := inject_restores_but_drops_breakpoint 0x400000 false
    (fun m => m.setRegister "eax" 7) .idc sampleDebugger [0xcc, 0xcc] "eax" fits (by decide)
  refine ⟨fits, by decide, final, ran, ?_⟩
  rw [dropped]
  simp [sampleDebugger]

end IdaDebugger

end DebugBridge
