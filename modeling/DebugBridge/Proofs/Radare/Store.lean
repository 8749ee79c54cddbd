import DebugBridge.Proofs.Radare.Session
/-!
# The radare2 adapter as a store

Over a faithful radare2 session, bytes written at a mapped address read back as written and
no byte outside them moves. A register the table lists under its resolved name reads as its
value, writing that value back changes nothing, and a write that goes through reads back.
The exception is a vector register that the table lists only as its two halves: reading
assembles it, but writing it is refused (`store_laws_except_vector_halves`). A write is
refused for an unlisted name before any command, and for a value too long for decimal text.
-/

namespace DebugBridge

set_option autoImplicit false

namespace R2Session

variable (layout : R2Layout) (program : Machine → Machine) (session : R2Session)

theorem registerTable_run :
    (Radare.cmdj (link layout program) "drtj all").run session =
      .ok (registerTable layout session, session) := rfl

theorem writeRegister_unlisted {name : String} (absent : layout.resolve name ∉ layout.registers)
    (value : Value) :
    (Radare.writeRegister (link layout program) (.str name) value).run session =
      .error (.register ("R2ConcreteTarget write_register unhandled reg name of " ++
        layout.resolve name)) := by
  unfold Radare.writeRegister
  rw [run_bind_ok (resolve_run layout program session name),
    run_bind_ok (registerTable_run layout program session), registerTable_contains,
    run_bind_ok run_liftFault_ok, decide_eq_false absent]
  rfl

theorem writeRegister_overlong {name : String} (listed : layout.resolve name ∈ layout.registers)
    {value : Int} (overlong : Value.decimalFits value = false) :
    (Radare.writeRegister (link layout program) (.str name) (.int value)).run session =
      .error .decimalTooLong := by
  have refused : (Value.int value).renderLimited = .error .decimalTooLong := by
    simp [Value.renderLimited, Value.textFits, overlong]
  unfold Radare.writeRegister
  rw [run_bind_ok (resolve_run layout program session name),
    run_bind_ok (registerTable_run layout program session), registerTable_contains,
    run_bind_ok run_liftFault_ok, decide_eq_true listed]
  simp only [Bool.not_true, Bool.false_eq_true, if_false]
  rw [Value.renderLimited_str, run_bind_ok run_liftFault_ok, Value.hexDigits_int,
    run_bind_ok run_liftFault_ok, refused]
  rfl

theorem joinHalves_table {name : String} (low : name ++ "l" ∈ layout.registers)
    (high : name ++ "h" ∈ layout.registers) :
    Radare.joinHalves (registerTable layout session) (.str name) =
      .ok (some (.int (session.machine.registers (name ++ "l") * 2 ^ 64 +
        session.machine.registers (name ++ "h")))) := by
  unfold Radare.joinHalves
  rw [show (Value.str name).add (.str "l") = .ok (.str (name ++ "l")) from rfl,
    show (Value.str name).add (.str "h") = .ok (.str (name ++ "h")) from rfl]
  simp [bind, Except.bind, registerTable_index layout session low,
    registerTable_index layout session high, Value.shiftLeft, Value.asInt?, Value.add, Value.numericSum]

/-- A name the table does not list, but whose two halves it lists, reads as its `l` half
shifted by 64 bits plus its `h` half. -/
theorem readRegister_halves {name : String} (absent : layout.resolve name ∉ layout.registers)
    (vector : ['x', 'm', 'm'] <+: (layout.resolve name).toList)
    (low : layout.resolve name ++ "l" ∈ layout.registers)
    (high : layout.resolve name ++ "h" ∈ layout.registers) :
    (Radare.readRegister (link layout program) (.str name)).run session =
      .ok (.int (session.machine.registers (layout.resolve name ++ "l") * 2 ^ 64 +
        session.machine.registers (layout.resolve name ++ "h")), session) := by
  have table : (do
      let _ ← liftFault (Value.interpolate "R2ConcreteTarget read_register at %s "
        (.one (.str (layout.resolve name))))
      Radare.cmdj (link layout program) "drtj all" : Run R2Session Value).run session =
      .ok (registerTable layout session, session) := by
    rw [liftFault_interpolate_bind rfl]
    rfl
  unfold Radare.readRegister
  rw [run_bind_ok (resolve_run layout program session name)]
  unfold Radare.readResolved rescue
  rw [run_bind_ok (run_tryCatch_ok table), registerTable_contains, run_bind_ok run_liftFault_ok,
    decide_eq_false absent]
  simp only [Bool.false_eq_true, if_false]
  rw [show (Value.str (layout.resolve name)).startsWith "xmm" = .ok true from by
      simp [Value.startsWith, vector],
    run_bind_ok run_liftFault_ok, if_pos rfl, joinHalves_table layout session low high]
  rfl
/-- A register write that returns normally has stored the value in the register the name
resolves to, and that register is listed. -/
theorem writeRegister_stored {name : String} {value : Int} {result : Value} {after : R2Session}
    (written : (Radare.writeRegister (link layout program) (.str name) (.int value)).run session =
      .ok (result, after)) :
    layout.resolve name ∈ layout.registers ∧
      after = { session with machine := session.machine.setRegister (layout.resolve name) value } := by
  by_cases listed : layout.resolve name ∈ layout.registers
  · cases fits : Value.decimalFits value
    case false =>
      rw [writeRegister_overlong layout program session listed fits] at written
      cases written
    case true =>
      rw [writeRegister_run layout program session listed fits] at written
      cases written
      exact ⟨listed, rfl⟩
  · rw [writeRegister_unlisted layout program session listed] at written
    cases written

end R2Session

open R2Session in
/-- Over a faithful radare2 session, bytes written at a mapped address read back as written
and leave every other byte as it was; a register that reads a value and is listed under its
resolved name takes that value back without any change to the session, while one assembled
from vector halves is refused; and a register write that returns normally reads back as the
value written. -/
theorem store_laws_except_vector_halves (layout : R2Layout) (program : Machine → Machine)
    (session : R2Session) :
    let link := R2Session.link layout program
    (∀ (address : Int) (bytes : List UInt8), layout.mapLine address ≠ "" →
      bytes.length < 2 ^ 63 →
      ∃ final : R2Session, (do
          let _ ← Radare.writeMemory link (.int address) (.bytes bytes)
          Radare.readMemory link (.int address) (.int bytes.length)).run session =
            .ok (.bytes bytes, final) ∧
        ∀ other, other < address ∨ address + bytes.length ≤ other →
          final.machine.memory other = session.machine.memory other) ∧
    ((∀ name, Value.decimalFits (session.machine.registers name)) →
      ∀ (register : String) (x : Value) (after : R2Session),
        (Radare.readRegister link (.str register)).run session = .ok (x, after) →
          (layout.resolve register ∈ layout.registers →
            (Radare.writeRegister link (.str register) x).run after = .ok (.none, after)) ∧
          (layout.resolve register ∉ layout.registers →
            (Radare.writeRegister link (.str register) x).run after =
              .error (.register ("R2ConcreteTarget write_register unhandled reg name of " ++
                layout.resolve register)))) ∧
    (∀ (register : String) (value : Int) (result : Value) (after : R2Session),
      (Radare.writeRegister link (.str register) (.int value)).run session = .ok (result, after) →
        (Radare.readRegister link (.str register)).run after = .ok (.int value, after)) := by
  intro link
  refine ⟨?memory, ?restore, ?readBack⟩
  case memory =>
    intro address bytes mapped short
    have length : Value.decimalFits bytes.length := Value.decimalFits_of_word (by omega)
    let written : R2Session := { session with machine := session.machine.writeBytes address bytes }
    refine ⟨written, ?_, ?_⟩
    · rw [run_bind_ok (writeMemory_run layout program session address bytes),
        readMemory_run layout program written mapped length, Int.toNat_natCast,
        Machine.bytesAt_writeBytes]
    · intro other outside
      exact session.machine.memory_writeBytes_of_outside bytes outside
  case restore =>
    intro sized register x after read
    refine ⟨?listed, fun absent => writeRegister_unlisted layout program after absent x⟩
    intro listed
    -- a listed register reads as its own value and leaves the session as it was
    rw [readRegister_run layout program session listed] at read
    cases read
    rw [writeRegister_run layout program session listed (sized _), Machine.setRegister_self]
  case readBack =>
    intro register value result after written
    obtain ⟨listed, rfl⟩ := writeRegister_stored layout program session written
    have relisted : layout.resolve register ∈ layout.registers := listed
    rw [readRegister_run layout program _ relisted]
    simp

namespace R2Session

/-- A small x86-64 profile: program counter, stack and frame pointers, one general
register and the two halves of one vector register, with one page mapped at `0x1000`. -/
def sampleLayout : R2Layout where
  registers := ["rip", "rsp", "rbp", "rax", "xmm0l", "xmm0h"]
  roleOf role := if role = "pc" then "rip" else if role = "sp" then "rsp" else "rbp"
  mapLine address := if 0x1000 ≤ address ∧ address < 0x2000 then "0x1000 - 0x2000 r-x" else ""
  registers_plain := by
    have plain : (["rip", "rsp", "rbp", "rax", "xmm0l", "xmm0h"].all fun name =>
        name.toList.all fun c => c != '=' && !Text.isBlank c) = true := by decide
    intro name listed c mem
    have fits := List.all_eq_true.mp (List.all_eq_true.mp plain name listed) c mem
    simpa using fits
  roleOf_listed := by
    intro role mem
    simp only [R2Layout.roles, List.mem_cons, List.not_mem_nil, or_false] at mem
    rcases mem with rfl | rfl | rfl <;> simp
  roleOf_stable := by
    intro role mem inRoles
    simp only [R2Layout.roles, List.mem_cons, List.not_mem_nil, or_false] at mem
    rcases mem with rfl | rfl | rfl <;> simp [R2Layout.roles] at inRoles

def sampleSession : R2Session :=
  ⟨⟨fun _ => 0x90, fun name => if name = "rip" then 0x1000 else 0⟩, []⟩

theorem sampleSession_wordSized (name : String) :
    (sampleSession.machine.registers name).natAbs < 2 ^ 64 := by
  simp only [sampleSession]
  split <;> decide

def halvesSession : R2Session :=
  ⟨⟨fun _ => 0x90, fun name =>
    if name = "rip" then 0x1000 else if name = "xmm0l" then 1 else if name = "xmm0h" then 2
    else 0⟩, []⟩

end R2Session

open R2Session in
/-- `xmm0` reads as `2^64 + 2` from its two halves, but writing that value back is refused:
the register table lists only the halves. -/
theorem vector_halves_read_but_do_not_write :
    (Radare.readRegister (link sampleLayout id) (.str "xmm0")).run halvesSession =
        .ok (.int (2 ^ 64 + 2), halvesSession) ∧
      (Radare.writeRegister (link sampleLayout id) (.str "xmm0") (.int (2 ^ 64 + 2))).run
          halvesSession =
        .error (.register "R2ConcreteTarget write_register unhandled reg name of xmm0") := by
  have low : halvesSession.machine.registers (sampleLayout.resolve "xmm0" ++ "l") = 1 := by decide
  have high : halvesSession.machine.registers (sampleLayout.resolve "xmm0" ++ "h") = 2 := by decide
  refine ⟨?_, writeRegister_unlisted sampleLayout id halvesSession (by decide) _⟩
  rw [readRegister_halves sampleLayout id halvesSession (by decide) (by decide) (by decide)
    (by decide), low, high]
  rfl

open R2Session in
theorem store_laws_except_vector_halves_on_sample :
    sampleLayout.mapLine 0x1000 ≠ "" ∧ [(0xcc : UInt8), 0x90].length < 2 ^ 63 ∧
      (∀ name, Value.decimalFits (sampleSession.machine.registers name)) ∧
      (Radare.readRegister (link sampleLayout id) (.str "rax")).run sampleSession =
        .ok (.int 0, sampleSession) ∧
      (Radare.writeRegister (link sampleLayout id) (.str "rax") (.int 7)).run sampleSession =
        .ok (.none, { sampleSession with
          machine := sampleSession.machine.setRegister "rax" 7 }) ∧
      (∃ final : R2Session, (do
          let _ ← Radare.writeMemory (link sampleLayout id) (.int 0x1000) (.bytes [0xcc, 0x90])
          Radare.readMemory (link sampleLayout id) (.int 0x1000) (.int 2)).run sampleSession =
            .ok (.bytes [0xcc, 0x90], final) ∧
        ∀ other, other < 0x1000 ∨ 0x1000 + 2 ≤ other →
          final.machine.memory other = sampleSession.machine.memory other) ∧
      (Radare.writeRegister (link sampleLayout id) (.str "rax") (.int 0)).run sampleSession =
        .ok (.none, sampleSession) ∧
      (Radare.readRegister (link sampleLayout id) (.str "rax")).run
          { sampleSession with machine := sampleSession.machine.setRegister "rax" 7 } =
        .ok (.int 7, { sampleSession with machine := sampleSession.machine.setRegister "rax" 7 }) := by
  have laws := store_laws_except_vector_halves sampleLayout id sampleSession
  have sized : ∀ name, Value.decimalFits (sampleSession.machine.registers name) :=
    fun name => Value.decimalFits_of_word (sampleSession_wordSized name)
  have read : (Radare.readRegister (link sampleLayout id) (.str "rax")).run sampleSession =
      .ok (.int 0, sampleSession) := readRegister_run sampleLayout id sampleSession (by decide)
  have written : (Radare.writeRegister (link sampleLayout id) (.str "rax") (.int 7)).run
      sampleSession = .ok (.none, { sampleSession with
        machine := sampleSession.machine.setRegister "rax" 7 }) :=
    writeRegister_run sampleLayout id sampleSession (by decide) (Value.decimalFits_of_word (by decide))
  exact ⟨by decide, by decide, sized, read, written,
    laws.1 0x1000 [0xcc, 0x90] (by decide) (by decide),
    (laws.2.1 sized "rax" (.int 0) sampleSession read).1 (by decide),
    laws.2.2 "rax" 7 .none _ written⟩

end DebugBridge
