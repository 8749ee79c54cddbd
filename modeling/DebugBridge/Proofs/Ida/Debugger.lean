import DebugBridge.Ida
import DebugBridge.Proofs.Machine
import DebugBridge.Proofs.Stepping
import Mathlib.Data.Finset.Basic
/-!
# IDA's debugger, keeping its process faithfully

The model behind the IDA adapter: the process IDA debugs and the set of its breakpoints.
`idc` reads and stores registers and bytes; `add_bpt` adds a breakpoint and replies whether
it was new, `enable_bpt` whether there is one, `del_bpt` removes one and replies whether
there was one; `continue_process` runs any function `program` of the process. The image base
and the word size are parameters, and `execute_sync` runs its action once. Each operation of
the adapter gets its run against the debugger here.
-/

namespace DebugBridge

set_option autoImplicit false

/-- IDA's debugger over a stopped process: the process and its breakpoints. -/
structure IdaDebugger where
  machine : Machine
  breakpoints : Finset Int

namespace IdaDebugger

def resolve (wide : Bool) (name : String) : String :=
  if name = "pc" then (if wide then "rip" else "eip") else name

def answer (imageBase : Int) (wide : Bool) (program : Machine → Machine) (call : Call)
    (debugger : IdaDebugger) : Except Fault (Value × IdaDebugger) :=
  match call.path, call.args with
  | "idaapi.execute_sync", _ => .ok (.none, debugger)
  | "idaapi.get_imagebase", [] => .ok (.int imageBase, debugger)
  | "idaapi.get_inf_structure", [] => .ok (.none, debugger)
  | "inf.is_64bit", [] => .ok (.bool wide, debugger)
  | "idc.get_reg_value", [.str name] => .ok (.int (debugger.machine.registers name), debugger)
  | "idc.set_reg_value", [.int value, .str name] =>
    .ok (.bool true, { debugger with machine := debugger.machine.setRegister name value })
  | "idc.read_dbg_memory", [.int a, .int n] =>
    .ok (.byteString (debugger.machine.bytesAt a n.toNat), debugger)
  | "idc.write_dbg_memory", [.int a, .byteString bytes] =>
    .ok (.int bytes.length, { debugger with machine := debugger.machine.writeBytes a bytes })
  | "idc.add_bpt", [.int a, _] =>
    .ok (.bool (decide (a ∉ debugger.breakpoints)),
      { debugger with breakpoints := insert a debugger.breakpoints })
  | "idc.enable_bpt", [.int a, .bool _] => .ok (.bool (decide (a ∈ debugger.breakpoints)), debugger)
  | "idc.del_bpt", [.int a] =>
    .ok (.bool (decide (a ∈ debugger.breakpoints)),
      { debugger with breakpoints := debugger.breakpoints.erase a })
  | "idc.MakeUnkn", _ => .ok (.bool true, debugger)
  | "idc.MakeCode", _ => .ok (.bool true, debugger)
  | "idaapi.continue_process", [] =>
    .ok (.bool true, { debugger with machine := program debugger.machine })
  | "idc.GetDebuggerEvent", _ => .ok (.none, debugger)
  | path, _ => .error (.raised ("the debugger cannot answer " ++ path))

def link (imageBase : Int) (wide : Bool) (program : Machine → Machine) : Link (Run IdaDebugger) where
  send call := fun debugger => answer imageBase wide program call debugger
  print _ := pure ()

section Operations

variable (imageBase : Int) (wide : Bool) (program : Machine → Machine) (debugger : IdaDebugger)
  (api : IdaApi)

theorem submit_run {α : Type} (kind : String) (action : Run IdaDebugger α) :
    (IdaTarget.submit (link imageBase wide program) kind action).run debugger =
      action.run debugger := rfl

theorem print_run (text : String) :
    ((link imageBase wide program).print text).run debugger = .ok ((), debugger) := rfl

theorem attempt_run_ok {body : Run IdaDebugger Value} {reply : Value} {after : IdaDebugger}
    (succeeds : body.run debugger = .ok (reply, after)) :
    (IdaTarget.attempt body).run debugger = .ok (some reply, after) := by
  unfold IdaTarget.attempt rescue
  apply run_tryCatch_ok
  rw [StateT.run_map, succeeds]
  rfl

theorem submitAttempt_run {kind : String} {body : Run IdaDebugger Value} {reply : Value}
    {after : IdaDebugger} (succeeds : body.run debugger = .ok (reply, after)) :
    (IdaTarget.submit (link imageBase wide program) kind (IdaTarget.attempt body)).run debugger =
      .ok (some reply, after) :=
  (submit_run imageBase wide program debugger _ _).trans (attempt_run_ok debugger succeeds)

theorem resolve_run (name : String) :
    (IdaTarget.resolve (link imageBase wide program) (.str name)).run debugger =
      .ok (.str (resolve wide name), debugger) := by
  unfold IdaTarget.resolve resolve
  by_cases isPc : name = "pc"
  · subst isPc
    cases wide <;> rfl
  · have differs : Value.same (.str name) (.str "pc") = false := by simpa [Value.same] using isPc
    rw [differs, if_neg isPc]
    rfl

theorem readRegister_run (name : String) :
    (IdaTarget.readRegister (link imageBase wide program) (.str name)).run debugger =
      .ok (.int (debugger.machine.registers (resolve wide name)), debugger) := by
  unfold IdaTarget.readRegister
  rw [run_bind_ok (resolve_run imageBase wide program debugger name),
    run_bind_ok (submitAttempt_run imageBase wide program debugger rfl)]
  rfl

theorem writeRegister_run (name : String) (value : Int) :
    (IdaTarget.writeRegister (link imageBase wide program) (.str name) (.int value)).run debugger =
      .ok (.bool true,
        { debugger with machine := debugger.machine.setRegister (resolve wide name) value }) := by
  unfold IdaTarget.writeRegister
  rw [run_bind_ok (resolve_run imageBase wide program debugger name),
    run_bind_ok (submitAttempt_run imageBase wide program debugger rfl)]
  rfl

theorem readMemory_run (a : Int) {count : Nat} (positive : 0 < count) :
    (IdaTarget.readMemory (link imageBase wide program) (.int a) (.int count)).run debugger =
      .ok (.byteString (debugger.machine.bytesAt a count), debugger) := by
  -- the read is not guarded: only a reply that is true counts, and one byte makes it true
  have truthy : (Value.byteString (debugger.machine.bytesAt a count)).truthy = true := by
    simp only [Value.truthy, Bool.not_eq_true', List.isEmpty_eq_false_iff, ne_eq]
    rw [← List.length_eq_zero_iff, Machine.bytesAt_length]
    omega
  have send : ((link imageBase wide program).send
      { path := "idc.read_dbg_memory", args := [.int a, .int count] }).run debugger =
      .ok (.byteString (debugger.machine.bytesAt a count), debugger) := rfl
  have action : (do
      let _ ← liftFault (Value.interpolate "ida target reads memory at %x" (.one (.int a)))
      let reply ← (link imageBase wide program).send
        { path := "idc.read_dbg_memory", args := [.int a, .int count] }
      pure (if reply.truthy then some reply else Option.none) : Run IdaDebugger (Option Value)).run
        debugger = .ok (some (.byteString (debugger.machine.bytesAt a count)), debugger) := by
    rw [liftFault_interpolate_bind rfl, run_bind_ok send, truthy]
    rfl
  unfold IdaTarget.readMemory
  rw [liftFault_interpolate_bind rfl,
    run_bind_ok ((submit_run imageBase wide program debugger _ _).trans action)]
  rfl

theorem writeMemory_run (a : Int) (bytes : List UInt8) :
    (IdaTarget.writeMemory (link imageBase wide program) (.int a) (.byteString bytes)).run debugger =
      .ok (.int bytes.length, { debugger with machine := debugger.machine.writeBytes a bytes }) := by
  obtain ⟨encoded, hex⟩ : ∃ text, (Value.byteString bytes).hexEncoded = .ok text := ⟨_, rfl⟩
  have action : (do
      let encoded ← liftFault (.ok encoded : Except Fault String)
      let _ ← liftFault (Value.interpolate "gdb target write memory at %x value %s "
        (.many [.int a, .str encoded]))
      (link imageBase wide program).send
        { path := "idc.write_dbg_memory", args := [.int a, .byteString bytes] } :
        Run IdaDebugger Value).run debugger =
      .ok (.int bytes.length, { debugger with machine := debugger.machine.writeBytes a bytes }) := by
    rw [run_bind_ok run_liftFault_ok, liftFault_interpolate_bind rfl]
    rfl
  unfold IdaTarget.writeMemory
  rw [hex, run_bind_ok run_liftFault_ok, liftFault_interpolate_bind rfl,
    run_bind_ok (submitAttempt_run imageBase wide program debugger action)]
  rfl

theorem setBreakpoint_run (a : Int) (hardware : Value) :
    (IdaTarget.setBreakpoint (link imageBase wide program) api (.int a) hardware).run debugger =
      .ok (.bool true, { debugger with breakpoints := insert a debugger.breakpoints }) := by
  -- adding replies whether the breakpoint is new, which the operation ignores; enabling it
  -- then finds it in the set whether or not it stood there before
  have enabled : decide (a ∈ insert a debugger.breakpoints) = true :=
    decide_eq_true (Finset.mem_insert_self a debugger.breakpoints)
  have action : (do
      let flag : Nat := if hardware.truthy then api.bptExec else api.bptSoft ||| api.bptExec
      let _ ← (link imageBase wide program).send
        { path := "idc.add_bpt", args := [.int a, .int (flag : Int)] }
      let enabledReply ← (link imageBase wide program).send
        { path := "idc.enable_bpt", args := [.int a, .bool true] }
      let _ ← liftFault (Value.interpolate "bp flag value %x enable_res %s"
        (.many [.int (flag : Int), enabledReply]))
      pure enabledReply : Run IdaDebugger Value).run debugger =
      .ok (.bool true, { debugger with breakpoints := insert a debugger.breakpoints }) := by
    rw [run_bind_ok rfl, run_bind_ok rfl, liftFault_interpolate_bind rfl]
    show Except.ok (Value.bool (decide (a ∈ insert a debugger.breakpoints)), _) = _
    rw [enabled]
  unfold IdaTarget.setBreakpoint
  rw [liftFault_interpolate_bind rfl,
    run_bind_ok (submitAttempt_run imageBase wide program debugger action)]
  rfl

theorem removeBreakpoint_run (a : Int) :
    (IdaTarget.removeBreakpoint (link imageBase wide program) (.int a)).run debugger =
      .ok (.bool (decide (a ∈ debugger.breakpoints)),
        { debugger with breakpoints := debugger.breakpoints.erase a }) := by
  unfold IdaTarget.removeBreakpoint
  rw [liftFault_interpolate_bind rfl,
    run_bind_ok (submitAttempt_run imageBase wide program debugger rfl)]
  rfl

theorem annotate_run (kind : String) (addresses : List Int) (c : Call) {reply : Value}
    (answered : answer imageBase wide program c debugger = .ok (reply, debugger)) :
    (IdaTarget.annotate (link imageBase wide program) kind (addresses.map Value.int) c).run debugger =
      .ok (reply, debugger) := by
  have action : (do
      for a in addresses.map Value.int do
        let _ ← liftFault a.hexLiteral
      (link imageBase wide program).send c : Run IdaDebugger Value).run debugger =
      .ok (reply, debugger) := by
    rw [forIn_hexLiteral_ints, pure_bind]
    exact answered
  unfold IdaTarget.annotate
  rw [run_bind_ok (submitAttempt_run imageBase wide program debugger action)]
  rfl

theorem makeUnknown_run (a : Int) (size : Value) :
    (IdaTarget.makeUnknown (link imageBase wide program) (.int a) size).run debugger =
      .ok (.bool true, debugger) :=
  annotate_run imageBase wide program debugger _ [a] _ rfl

theorem makeCode_run (a : Int) :
    (IdaTarget.makeCode (link imageBase wide program) (.int a)).run debugger =
      .ok (.bool true, debugger) :=
  annotate_run imageBase wide program debugger _ [a] _ rfl

/-- An action that leaves the debugger as it is does so however often it is repeated. -/
theorem repeatAction_run {action : Run IdaDebugger Value} {reply : Value}
    (keeps : action.run debugger = .ok (reply, debugger)) :
    ∀ n, (IdaTarget.repeatAction action n).run debugger = .ok ((), debugger)
  | 0 => rfl
  | n + 1 => by
    unfold IdaTarget.repeatAction
    rw [run_bind_ok keeps]
    exact repeatAction_run keeps n

theorem run_run :
    (IdaTarget.run (link imageBase wide program) api).run debugger =
      .ok (.none, { debugger with machine := program debugger.machine }) := by
  unfold IdaTarget.run
  rw [run_bind_ok (submitAttempt_run imageBase wide program debugger rfl)]
  rfl

end Operations

end IdaDebugger

end DebugBridge
