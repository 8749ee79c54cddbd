import DebugBridge.Proofs.Gdb.Server
/-!
# Code injection through gdb

Injection saves the bytes under the code with one read, and the gdb adapter cuts every read
at the end of the page holding its first byte, while writes are never cut. So when the code
crosses a page end, the bytes past it keep whatever the code left there. Everything else is
restored: the program counter, the result register and the breakpoint table, since the
planted breakpoint is temporary. `inject_restores_within_page` states it for every server
that is not running, every power-of-two page size, every code and every register.
-/

namespace DebugBridge

set_option autoImplicit false

namespace GdbServer

variable (program : Machine → Machine) (k : Nat)

/-- The server as the store injection works on, with reads cut at the end of pages of
`2 ^ k` bytes. -/
def store : StoreModel GdbServer where
  register server name := server.machine.registers name
  read server address count :=
    server.machine.bytesAt address (min (count : Int) (nextPage (2 ^ k) address - address)).toNat
  write server address bytes := { server with machine := server.machine.writeBytes address bytes }
  setRegister server name value :=
    { server with machine := server.machine.setRegister name value }
  breakAt server address := { server with breakpoints := ⟨address, true⟩ :: server.breakpoints }
  resume server := server.resume program

variable {program k} {t : GdbTarget} {server : GdbServer}

theorem injectionSteps (page : t.pageSize = .int (2 ^ k))
    (notRunning : server.status ≠ TargetState.running.code) (code : List UInt8)
    (register : String) :
    InjectionSteps (GdbTarget.primitives (link program) t) (store program k) server code register where
  readPc := readRegister_run program server "pc"
  saveBytes := readMemory_run program server page _ _
  saveRegister := readRegister_run program server register
  writeCode := ⟨_, writeMemory_run program server _ code⟩
  readBack := ⟨_, readMemory_run program _ page _ _⟩
  plant := ⟨_, setBreakpoint_run program _ _⟩
  resume := ⟨_, run_run program _ notRunning⟩
  readStopPc := readRegister_run program _ "pc"
  readResult := readRegister_run program _ register
  restorePc := ⟨_, writeRegister_run program _ "pc" _⟩
  readRestoredPc := readRegister_run program _ "pc"
  restoreBytes := ⟨_, writeMemory_run program _ _ _⟩
  restoreRegister := ⟨_, writeRegister_run program _ register _⟩
  readFinalPc := readRegister_run program _ "pc"
  readFinalRegister := readRegister_run program _ register
  readFinalBytes := ⟨_, readMemory_run program _ page _ _⟩

variable (program k server) (code : List UInt8) (register : String)

def stoppedMachine : Machine :=
  program (server.machine.writeBytes (server.machine.registers "pc") code)

theorem restored_registers :
    ((store program k).restored server code register).machine.registers =
      Function.update (Function.update (stoppedMachine program server code).registers
        "pc" (server.machine.registers "pc")) register (server.machine.registers register) := rfl

theorem restored_breakpoints :
    ((store program k).restored server code register).breakpoints = server.breakpoints := by
  simp [StoreModel.restored, StoreModel.bytesRestored, StoreModel.pcRestored,
    StoreModel.stopped, StoreModel.planted, StoreModel.written, store, resume]

theorem restored_memory (at_ : Int) :
    ((store program k).restored server code register).machine.memory at_ =
      if server.machine.registers "pc" ≤ at_ ∧ at_ < min (server.machine.registers "pc" +
          code.length) (nextPage (2 ^ k) (server.machine.registers "pc")) then
        server.machine.memory at_
      else (stoppedMachine program server code).memory at_ := by
  set pc := server.machine.registers "pc"
  have nextAbove := (nextPage_bounds (k := k) pc).1
  have span : pc + ((min (code.length : Int) (nextPage (2 ^ k) pc - pc)).toNat : Int) =
      min (pc + code.length) (nextPage (2 ^ k) pc) := by omega
  show (Machine.writeBytes _ _ (server.machine.bytesAt _ _)).memory at_ = _
  rw [show (store program k).pc server = pc from rfl, Machine.memory_writeBytes_bytesAt, span]
  rfl

end GdbServer

open GdbServer in
/-- Code injection through gdb returns the register as it stands where the code stops, and
puts back the program counter, the register and the breakpoint table. Of the bytes the code
overwrote, those before the end of the program counter's page get their old values back;
those past it keep what the code left there. -/
theorem inject_restores_within_page (program : Machine → Machine) (t : GdbTarget) (k : Nat)
    (page : t.pageSize = .int (2 ^ k)) (server : GdbServer)
    (notRunning : server.status ≠ TargetState.running.code) (code : List UInt8)
    (register : String) :
    let pc := server.machine.registers "pc"
    ∃ final : GdbServer,
      ((GdbTarget.primitives (link program) t).inject (.bytes code) (.str register)).run server =
        .ok (.int ((stoppedMachine program server code).registers register), final) ∧
      final.machine.registers "pc" = pc ∧
      final.machine.registers register = server.machine.registers register ∧
      final.breakpoints = server.breakpoints ∧
      ∀ at_, pc ≤ at_ → at_ < pc + code.length →
        final.machine.memory at_ =
          if at_ < nextPage (2 ^ k) pc then server.machine.memory at_
          else (stoppedMachine program server code).memory at_ := by
  intro pc
  refine ⟨(store program k).restored server code register,
    inject_run (injectionSteps page notRunning code register), ?_, ?_,
    restored_breakpoints program k server code register, ?_⟩
  · rw [restored_registers]
    by_cases samePc : register = "pc"
    · rw [samePc, Function.update_self]
    · rw [Function.update_of_ne (Ne.symm samePc), Function.update_self]
  · rw [restored_registers, Function.update_self]
  · intro at_ fromPc beforeEnd
    rw [restored_memory]
    by_cases inPage : at_ < nextPage (2 ^ k) pc
    · have saved : pc ≤ at_ ∧ at_ < min (pc + code.length) (nextPage (2 ^ k) pc) := by omega
      simp only [if_pos saved, if_pos inPage, pc]
    · have unsaved : ¬(pc ≤ at_ ∧ at_ < min (pc + code.length) (nextPage (2 ^ k) pc)) := by omega
      simp only [if_neg unsaved, if_neg inPage, pc]

theorem inject_restores_within_page_at_page_end :
    (default : GdbTarget).pageSize = .int (2 ^ 12) ∧
      (⟨⟨fun _ => 0, fun name => if name = "pc" then 0xfff else 0⟩, [], 4⟩ : GdbServer).status ≠
        TargetState.running.code ∧
      let server : GdbServer := ⟨⟨fun _ => 0, fun name => if name = "pc" then 0xfff else 0⟩, [], 4⟩
      ∃ final : GdbServer,
        ((GdbTarget.primitives (GdbServer.link id) default).inject (.bytes [0xcc, 0xcc])
          (.str "rax")).run server = .ok (.int 0, final) ∧
        final.machine.registers "pc" = 0xfff ∧ final.machine.registers "rax" = 0 ∧
        final.breakpoints = [] ∧
        ∀ at_, 0xfff ≤ at_ → at_ < 0xfff + 2 →
          final.machine.memory at_ =
            if at_ < nextPage (2 ^ 12) 0xfff then 0
            else (GdbServer.stoppedMachine id server [0xcc, 0xcc]).memory at_ :=
  ⟨rfl, by decide,
    inject_restores_within_page id default 12 rfl _ (by decide) [0xcc, 0xcc] "rax"⟩

end DebugBridge
