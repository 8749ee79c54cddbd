import DebugBridge.Proofs.Injection
import DebugBridge.Proofs.Radare.Store
/-!
# Code injection through radare2

Injection through radare2 restores the program counter, the result register and the bytes
under the code, but not the breakpoint list: radare2 has no temporary breakpoints, so the
one planted past the code stays unless one was there already. A vector register that the
adapter reads from its two halves cannot be written back, so injection fails at the
restoring write (`inject_refused_on_vector_halves`). `inject_restores_but_keeps_breakpoint`
states both for every layout, every session whose program counter is mapped and whose
registers are 64-bit words, and every code.
-/

namespace DebugBridge

set_option autoImplicit false

namespace R2Session

variable (layout : R2Layout) (program : Machine → Machine)

/-- The session as the store injection works on: registers by the name they resolve to,
breakpoints added to the list, and continuing runs the code. -/
def store : StoreModel R2Session where
  register session name := session.machine.registers (layout.resolve name)
  read session address count := session.machine.bytesAt address count
  write session address bytes := { session with machine := session.machine.writeBytes address bytes }
  setRegister session name value :=
    { session with machine := session.machine.setRegister (layout.resolve name) value }
  breakAt session address := { session with breakpoints := withBreakpoint session.breakpoints address }
  resume session := { session with machine := program session.machine }

def stoppedMachine (session : R2Session) (code : List UInt8) : Machine :=
  program (session.machine.writeBytes (session.machine.registers (layout.resolve "pc")) code)

theorem pc_listed : layout.resolve "pc" ∈ layout.registers := by
  have role : "pc" ∈ R2Layout.roles := by decide
  rw [R2Layout.resolve, if_pos role]
  exact layout.roleOf_listed "pc" role

theorem withBreakpoint_eq_self_iff (breakpoints : List Int) (address : Int) :
    withBreakpoint breakpoints address = breakpoints ↔ address ∈ breakpoints := by
  unfold withBreakpoint
  split
  case isTrue present => simp [present]
  case isFalse absent => simp [absent]

variable {layout program} {session : R2Session} {code : List UInt8} {register : String}

theorem restored_pc :
    (store layout program).register ((store layout program).restored session code register) "pc" =
      (store layout program).pc session := by
  simp only [store, StoreModel.restored, StoreModel.bytesRestored, StoreModel.pcRestored,
    StoreModel.pc, Machine.setRegister_registers, Machine.writeBytes_registers]
  by_cases same : layout.resolve "pc" = layout.resolve register
  · rw [same, Function.update_self]
  · rw [Function.update_of_ne same, Function.update_self]

section Steps

variable (mapped : layout.mapLine ((store layout program).pc session) ≠ "")
  (wordSized : ∀ name, (session.machine.registers name).natAbs < 2 ^ 64)
  (short : code.length < 2 ^ 63)
include mapped wordSized short

theorem restoringSteps {saved result : Int}
    (saveRegister : (Radare.readRegister (link layout program) (.str register)).run session =
      .ok (.int saved, session))
    (readResult : (Radare.readRegister (link layout program) (.str register)).run
      ((store layout program).stopped session code) =
        .ok (.int result, (store layout program).stopped session code)) :
    RestoringSteps (Radare.primitives (link layout program)) (store layout program) session code
      register saved result := by
  have length : Value.decimalFits code.length := Value.decimalFits_of_word (by omega)
  have pc := pc_listed layout
  exact {
    readPc := readRegister_run layout program session pc
    saveBytes := readMemory_run layout program session mapped length
    saveRegister := saveRegister
    writeCode := ⟨_, writeMemory_run layout program session _ code⟩
    readBack := ⟨_, readMemory_run layout program _ mapped length⟩
    plant := ⟨_, setBreakpoint_run layout program _ _⟩
    resume := ⟨_, run_run layout program _⟩
    readStopPc := readRegister_run layout program _ pc
    readResult := readResult
    restorePc := ⟨_, writeRegister_run layout program _ pc (Value.decimalFits_of_word (wordSized _))⟩
    readRestoredPc := readRegister_run layout program _ pc
    restoreBytes := ⟨_, writeMemory_run layout program _ _ _⟩ }

theorem injectionSteps (listed : layout.resolve register ∈ layout.registers) :
    InjectionSteps (Radare.primitives (link layout program)) (store layout program) session code
      register := by
  have length : Value.decimalFits code.length := Value.decimalFits_of_word (by omega)
  have pc := pc_listed layout
  have finalMapped : layout.mapLine ((store layout program).register
      ((store layout program).restored session code register) "pc") ≠ "" := by
    rw [restored_pc]
    exact mapped
  exact {
    toRestoringSteps := restoringSteps mapped wordSized short
      (readRegister_run layout program session listed) (readRegister_run layout program _ listed)
    restoreRegister :=
      ⟨_, writeRegister_run layout program _ listed (Value.decimalFits_of_word (wordSized _))⟩
    readFinalPc := readRegister_run layout program _ pc
    readFinalRegister := readRegister_run layout program _ listed
    readFinalBytes := ⟨_, readMemory_run layout program _ finalMapped length⟩ }

/-- A vector register that the table lists only as its two halves reads at the start and
where the code stops, so injection reaches the write that puts it back, and the adapter
refuses that write. -/
theorem inject_refused_on_vector_halves (absent : layout.resolve register ∉ layout.registers)
    (vector : ['x', 'm', 'm'] <+: (layout.resolve register).toList)
    (low : layout.resolve register ++ "l" ∈ layout.registers)
    (high : layout.resolve register ++ "h" ∈ layout.registers) :
    ((Radare.primitives (link layout program)).inject (.bytes code) (.str register)).run session =
      .error (.register ("R2ConcreteTarget write_register unhandled reg name of " ++
        layout.resolve register)) :=
  inject_fails_restoring
    (restoringSteps mapped wordSized short
      (readRegister_halves layout program session absent vector low high)
      (readRegister_halves layout program _ absent vector low high))
    (writeRegister_unlisted layout program _ absent _)

end Steps

variable (layout program session code register)

theorem restored_registers :
    ((store layout program).restored session code register).machine.registers =
      Function.update (Function.update (stoppedMachine layout program session code).registers
        (layout.resolve "pc") (session.machine.registers (layout.resolve "pc")))
        (layout.resolve register) (session.machine.registers (layout.resolve register)) := rfl

theorem restored_breakpoints :
    ((store layout program).restored session code register).breakpoints =
      withBreakpoint session.breakpoints (session.machine.registers (layout.resolve "pc") + code.length) :=
  rfl

theorem restored_memory (at_ : Int) :
    ((store layout program).restored session code register).machine.memory at_ =
      if session.machine.registers (layout.resolve "pc") ≤ at_ ∧
          at_ < session.machine.registers (layout.resolve "pc") + code.length then
        session.machine.memory at_
      else (stoppedMachine layout program session code).memory at_ := by
  show (Machine.writeBytes _ _ (session.machine.bytesAt _ _)).memory at_ = _
  rw [Machine.memory_writeBytes_bytesAt]
  rfl

end R2Session

open R2Session in
/-- Code injection through radare2, for a register the table lists under the name it
resolves to, returns the register as it stands where the code stops, and puts back the
program counter, the register and every byte the code overwrote. The breakpoint it planted
just past the code stays in the breakpoint list, which therefore comes back unchanged
exactly when that address held a breakpoint already. A vector register that the table lists
only as its two halves reads as the two put together, but no write of it goes through, and
injection fails at the write that puts it back. -/
theorem inject_restores_but_keeps_breakpoint (layout : R2Layout) (program : Machine → Machine)
    (session : R2Session) (code : List UInt8) (register : String)
    (mapped : layout.mapLine (session.machine.registers (layout.resolve "pc")) ≠ "")
    (wordSized : ∀ name, (session.machine.registers name).natAbs < 2 ^ 64)
    (short : code.length < 2 ^ 63) :
    let pc := session.machine.registers (layout.resolve "pc")
    let name := layout.resolve register
    let refusal : Fault := .register ("R2ConcreteTarget write_register unhandled reg name of " ++ name)
    (name ∈ layout.registers →
      ∃ final : R2Session,
        ((Radare.primitives (link layout program)).inject (.bytes code) (.str register)).run
          session = .ok (.int ((stoppedMachine layout program session code).registers name), final) ∧
        final.machine.registers (layout.resolve "pc") = pc ∧
        final.machine.registers name = session.machine.registers name ∧
        (∀ at_, pc ≤ at_ → at_ < pc + code.length →
          final.machine.memory at_ = session.machine.memory at_) ∧
        final.breakpoints = withBreakpoint session.breakpoints (pc + code.length) ∧
        (final.breakpoints = session.breakpoints ↔ pc + code.length ∈ session.breakpoints)) ∧
    (name ∉ layout.registers → ['x', 'm', 'm'] <+: name.toList → name ++ "l" ∈ layout.registers →
      name ++ "h" ∈ layout.registers →
      (Radare.readRegister (link layout program) (.str register)).run session =
          .ok (.int (session.machine.registers (name ++ "l") * 2 ^ 64 +
            session.machine.registers (name ++ "h")), session) ∧
        (∀ value, (Radare.writeRegister (link layout program) (.str register) value).run session =
          .error refusal) ∧
        ((Radare.primitives (link layout program)).inject (.bytes code) (.str register)).run
          session = .error refusal) := by
  intro pc name refusal
  refine ⟨fun listed => ?listed, fun absent vector low high => ?halves⟩
  case halves =>
    exact ⟨readRegister_halves layout program session absent vector low high,
      writeRegister_unlisted layout program session absent,
      inject_refused_on_vector_halves mapped wordSized short absent vector low high⟩
  case listed =>
    refine ⟨(store layout program).restored session code register,
      inject_run (injectionSteps mapped wordSized short listed), restored_pc, ?_, ?_,
      restored_breakpoints layout program session code register, ?_⟩
    · rw [restored_registers, Function.update_self]
    · intro at_ fromPc beforeEnd
      rw [restored_memory, if_pos ⟨fromPc, beforeEnd⟩]
    · rw [restored_breakpoints]
      exact withBreakpoint_eq_self_iff session.breakpoints (pc + code.length)

open R2Session in
/-- One byte of code on the sample session: injection returns, but the breakpoint list that
was empty now holds `0x1001`; and `xmm0`, which reads from its halves, makes injection fail. -/
theorem inject_keeps_breakpoint_or_fails_on_halves :
    (∃ result final, ((Radare.primitives (link sampleLayout id)).inject (.bytes [0xcc])
        (.str "rax")).run sampleSession = .ok (result, final) ∧
      sampleSession.breakpoints = [] ∧ final.breakpoints = [0x1001]) ∧
    (Radare.readRegister (link sampleLayout id) (.str "xmm0")).run sampleSession =
      .ok (.int 0, sampleSession) ∧
    ((Radare.primitives (link sampleLayout id)).inject (.bytes [0xcc]) (.str "xmm0")).run
      sampleSession = .error (.register "R2ConcreteTarget write_register unhandled reg name of xmm0") := by
  have low : sampleSession.machine.registers (sampleLayout.resolve "xmm0" ++ "l") = 0 := by decide
  have high : sampleSession.machine.registers (sampleLayout.resolve "xmm0" ++ "h") = 0 := by decide
  refine ⟨⟨_, _, inject_run (injectionSteps (by decide) sampleSession_wordSized (by decide)
    (by decide)), rfl, by decide⟩, ?_, inject_refused_on_vector_halves (by decide)
      sampleSession_wordSized (by decide) (by decide) (by decide) (by decide) (by decide)⟩
  rw [readRegister_halves sampleLayout id sampleSession (by decide) (by decide) (by decide)
    (by decide), low, high]
  rfl

open R2Session in
theorem inject_restores_but_keeps_breakpoint_on_sample :
    sampleLayout.mapLine (sampleSession.machine.registers (sampleLayout.resolve "pc")) ≠ "" ∧
      (∀ name, (sampleSession.machine.registers name).natAbs < 2 ^ 64) ∧
      [(0xcc : UInt8)].length < 2 ^ 63 ∧
      sampleLayout.resolve "rax" ∈ sampleLayout.registers ∧
      (∃ final : R2Session,
        ((Radare.primitives (link sampleLayout id)).inject (.bytes [0xcc]) (.str "rax")).run
          sampleSession =
          .ok (.int ((stoppedMachine sampleLayout id sampleSession [0xcc]).registers
            (sampleLayout.resolve "rax")), final) ∧
        final.machine.registers (sampleLayout.resolve "pc") = 0x1000 ∧
        final.machine.registers (sampleLayout.resolve "rax") = 0 ∧
        (∀ at_, 0x1000 ≤ at_ → at_ < 0x1000 + 1 → final.machine.memory at_ = 0x90) ∧
        final.breakpoints = withBreakpoint [] (0x1000 + 1) ∧
        (final.breakpoints = [] ↔ 0x1000 + 1 ∈ ([] : List Int))) ∧
      sampleLayout.resolve "xmm0" ∉ sampleLayout.registers ∧
      ['x', 'm', 'm'] <+: (sampleLayout.resolve "xmm0").toList ∧
      sampleLayout.resolve "xmm0" ++ "l" ∈ sampleLayout.registers ∧
      sampleLayout.resolve "xmm0" ++ "h" ∈ sampleLayout.registers ∧
      ((Radare.primitives (link sampleLayout id)).inject (.bytes [0xcc]) (.str "xmm0")).run
        sampleSession =
        .error (.register "R2ConcreteTarget write_register unhandled reg name of xmm0") := by
  have mapped : sampleLayout.mapLine
      (sampleSession.machine.registers (sampleLayout.resolve "pc")) ≠ "" := by decide
  have short : [(0xcc : UInt8)].length < 2 ^ 63 := by decide
  have rax := inject_restores_but_keeps_breakpoint sampleLayout id sampleSession [0xcc] "rax"
    mapped sampleSession_wordSized short
  have xmm0 := inject_restores_but_keeps_breakpoint sampleLayout id sampleSession [0xcc] "xmm0"
    mapped sampleSession_wordSized short
  have absent : sampleLayout.resolve "xmm0" ∉ sampleLayout.registers := by decide
  have vector : ['x', 'm', 'm'] <+: (sampleLayout.resolve "xmm0").toList := by decide
  have low : sampleLayout.resolve "xmm0" ++ "l" ∈ sampleLayout.registers := by decide
  have high : sampleLayout.resolve "xmm0" ++ "h" ∈ sampleLayout.registers := by decide
  exact ⟨mapped, sampleSession_wordSized, short, by decide, rax.1 (by decide), absent, vector,
    low, high, (xmm0.2 absent vector low high).2.2⟩

end DebugBridge
