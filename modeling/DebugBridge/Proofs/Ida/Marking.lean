import DebugBridge.Proofs.Ida.Faults
import DebugBridge.Proofs.Radare.Registers
/-!
# What an injection asks of IDA

Against a backend whose replies may depend on every call before (`Probe.replying`) and on
which every step succeeds (`Cooperates`), the calls of `IdaTarget.inject` that change what
IDA holds about the code (`touchesCode`) come in a fixed order (`inject_marks_base_only`):
the code written at the image base `b`, its bytes made unknown, the byte at `b` alone made
code `n` times, one breakpoint at `b + n - 2`, the run, the breakpoint deleted and the old
bytes written back. Each operation's run is stated once as `Steps`, which `Steps.bind`
passes over.
-/

namespace DebugBridge

set_option autoImplicit false

namespace Probe

theorem replying_print_run (backend : List Call → Call → Except Fault Value) (text : String)
    (calls : List Call) : ((replying backend).print text).run.run calls = (.ok (), calls) := rfl

end Probe

namespace IdaTarget

/-- The calls that change what IDA holds about the code: writing memory, marking bytes as
unknown or as code, adding, enabling and deleting breakpoints, and resuming the process. -/
def touchesCode (c : Call) : Bool :=
  ["idc.write_dbg_memory", "idc.MakeUnkn", "idc.MakeCode", "idc.add_bpt", "idc.enable_bpt",
    "idc.del_bpt", "idaapi.continue_process"].contains c.path

theorem touchesCode_syncCall (kind : String) : touchesCode (syncCall kind) = false := rfl

/-- A backend on which every step of an injection succeeds, with image base `base`: every
call has a reply, a register reads as an integer, a read of `count` bytes gives that many as a
byte string of the older kind, and the reply of enabling a breakpoint has text for the log
line. The image base writes itself in decimal. -/
structure Cooperates (base : Int) (backend : List Call → Call → Except Fault Value) : Prop where
  answers : ∀ calls c, ∃ v, backend calls c = .ok v
  imageBase : ∀ calls, backend calls { path := "idaapi.get_imagebase" } = .ok (.int base)
  registers : ∀ calls name, ∃ v : Int,
    backend calls { path := "idc.get_reg_value", args := [name] } = .ok (.int v)
  memory : ∀ calls address (count : Int), ∃ bytes : List UInt8, bytes.length = count.toNat ∧
    backend calls { path := "idc.read_dbg_memory", args := [address, .int count] } =
      .ok (.byteString bytes)
  enabled : ∀ calls address, ∃ v : Value, v.textFits = true ∧
    backend calls { path := "idc.enable_bpt", args := [address, .bool true] } = .ok v
  fits : Value.decimalFits base

/-- Run after `calls`, `op` succeeds with a value that `P` holds of, and of the calls it makes,
those that touch the code are `touched`. -/
def Steps {α : Type} (op : Probe α) (calls : List Call) (P : α → Prop) (touched : List Call) :
    Prop :=
  ∃ a extra, op.run.run calls = (.ok a, calls ++ extra) ∧ P a ∧ extra.filter touchesCode = touched

/-- A step is passed over: what holds after the rest, for every value and calls the step may
leave, holds after both. -/
theorem Steps.bind {α β : Type} {x : Probe α} {calls : List Call} {P : α → Prop}
    {touched : List Call} (G : Except Fault β × List Call → Prop) {f : α → Probe β}
    (step : Steps x calls P touched)
    (rest : ∀ a extra, P a → extra.filter touchesCode = touched →
      G ((f a).run.run (calls ++ extra))) :
    G ((x >>= f).run.run calls) := by
  obtain ⟨a, extra, ran, holds, filtered⟩ := step
  rw [Probe.bind_ok ran]
  exact rest a extra holds filtered

section Cooperating

variable {base : Int} {backend : List Call → Call → Except Fault Value}
  (co : Cooperates base backend)
include co

theorem notify_cooperating (c : Call) (calls : List Call) :
    ((Probe.replying backend).notify c).run.run calls = (.ok (), calls ++ [c]) := by
  obtain ⟨v, replied⟩ := co.answers calls c
  unfold Link.notify
  rw [Probe.bind_ok (by rw [Probe.replying_send_run, replied])]
  rfl

theorem submit_cooperating {α : Type} (kind : String) (action : Probe α) (calls : List Call) :
    (submit (Probe.replying backend) kind action).run.run calls =
      action.run.run (calls ++ [syncCall kind]) := by
  unfold submit
  exact Probe.bind_ok (notify_cooperating co _ calls)

theorem settled_cooperating {kind : String} {failure : Fault} {body : Probe Value}
    {calls after : List Call} {v : Value}
    (ran : body.run.run (calls ++ [syncCall kind]) = (.ok v, after)) :
    (do
      let outcome ← submit (Probe.replying backend) kind (attempt body)
      settle failure outcome : Probe Value).run.run calls = (.ok v, after) := by
  rw [Probe.bind_ok ((submit_cooperating co kind _ calls).trans (attempt_run ran))]
  rfl

theorem settled_send {kind : String} {failure : Fault} {c : Call} {calls : List Call} {v : Value}
    (replied : backend (calls ++ [syncCall kind]) c = .ok v) :
    (do
      let outcome ← submit (Probe.replying backend) kind (attempt ((Probe.replying backend).send c))
      settle failure outcome : Probe Value).run.run calls = (.ok v, calls ++ [syncCall kind, c]) := by
  rw [settled_cooperating co (by rw [Probe.replying_send_run, replied])]
  simp

theorem resolve_cooperating (name : String) (calls : List Call) :
    Steps (resolve (Probe.replying backend) (.str name)) calls (fun v => ∃ r, v = .str r) [] := by
  unfold Steps resolve
  by_cases isPc : name = "pc"
  · subst isPc
    rw [show Value.same (.str "pc") (.str "pc") = true from rfl, if_pos rfl]
    obtain ⟨wide, asked⟩ := co.answers (calls ++ [{ path := "idaapi.get_inf_structure" }])
      { path := "inf.is_64bit" }
    rw [Probe.bind_ok (notify_cooperating co _ calls),
      Probe.bind_ok (by rw [Probe.replying_send_run, asked])]
    exact ⟨_, [{ path := "idaapi.get_inf_structure" }, { path := "inf.is_64bit" }], by simp; rfl,
      ⟨_, rfl⟩, rfl⟩
  · have differs : Value.same (.str name) (.str "pc") = false := by
      simpa [Value.same] using isPc
    rw [differs]
    exact ⟨_, [], by simp; rfl, ⟨name, rfl⟩, rfl⟩

theorem resolved_cooperating (name kind : String) (call : Value → Call) (failure : Fault)
    (P : Value → Prop) (quiet : ∀ n, touchesCode (call n) = false)
    (replies : ∀ calls n, ∃ v, P v ∧ backend calls (call n) = .ok v) (calls : List Call) :
    Steps (do
      let n ← resolve (Probe.replying backend) (.str name)
      let outcome ← submit (Probe.replying backend) kind (attempt ((Probe.replying backend).send (call n)))
      settle failure outcome) calls P [] := by
  obtain ⟨_, extra, resolved, ⟨r, rfl⟩, resolvedQuiet⟩ := resolve_cooperating co name calls
  obtain ⟨v, holds, replied⟩ := replies (calls ++ extra ++ [syncCall kind]) (.str r)
  rw [Steps, Probe.bind_ok resolved, settled_send co replied]
  refine ⟨v, extra ++ [syncCall kind, call (.str r)], by simp, holds, ?_⟩
  simp [resolvedQuiet, touchesCode_syncCall, quiet]

theorem readRegister_cooperating (name : String) (calls : List Call) :
    Steps (readRegister (Probe.replying backend) (.str name)) calls (fun v => ∃ i : Int, v = .int i)
      [] :=
  resolved_cooperating co name "ReadRegisterCallable"
    (fun n => { path := "idc.get_reg_value", args := [n] }) _ _ (fun _ => rfl)
    (fun calls n => by
      obtain ⟨i, read⟩ := co.registers calls n
      exact ⟨_, ⟨i, rfl⟩, read⟩) calls

theorem writeRegister_cooperating (name : String) (value : Value) (calls : List Call) :
    Steps (writeRegister (Probe.replying backend) (.str name) value) calls (fun _ => True) [] :=
  resolved_cooperating co name "WriteRegisterCallable"
    (fun n => { path := "idc.set_reg_value", args := [value, n] }) _ _ (fun _ => rfl)
    (fun calls n => by
      obtain ⟨v, stored⟩ := co.answers calls { path := "idc.set_reg_value", args := [value, n] }
      exact ⟨v, trivial, stored⟩) calls

theorem readMemory_cooperating (address : Int) (count : Nat) (positive : 0 < count)
    (calls : List Call) :
    Steps (readMemory (Probe.replying backend) (.int address) (.int count)) calls
      (fun v => ∃ bytes, v = .byteString bytes) [] := by
  let c : Call := { path := "idc.read_dbg_memory", args := [.int address, .int count] }
  obtain ⟨bytes, counted, read⟩ := co.memory (calls ++ [syncCall "ReadMemoryCallable"])
    (.int address) count
  -- as many bytes as asked for, so the reply counts as true
  have truthy : (Value.byteString bytes).truthy = true := by
    have filled : bytes ≠ [] := List.ne_nil_of_length_pos (by omega)
    simpa [Value.truthy, List.isEmpty_iff] using filled
  have action : ((liftFault (Value.interpolate "ida target reads memory at %x"
        (.one (.int address))) >>= fun _ => do
      let reply ← (Probe.replying backend).send c
      pure (if reply.truthy then some reply else Option.none)) : Probe (Option Value)).run.run
        (calls ++ [syncCall "ReadMemoryCallable"]) =
      (.ok (some (.byteString bytes)), calls ++ [syncCall "ReadMemoryCallable"] ++ [c]) := by
    rw [liftFault_interpolate_bind rfl, Probe.bind_ok (by rw [Probe.replying_send_run, read])]
    simp only [truthy, if_true]
    rfl
  unfold readMemory
  rw [Steps, liftFault_interpolate_bind rfl,
    Probe.bind_ok ((submit_cooperating co _ _ calls).trans action)]
  exact ⟨_, [syncCall "ReadMemoryCallable", c], by simp; rfl, ⟨bytes, rfl⟩, rfl⟩

theorem writeMemory_cooperating (address : Int) (bytes : List UInt8) (calls : List Call) :
    Steps (writeMemory (Probe.replying backend) (.int address) (.byteString bytes)) calls
      (fun _ => True) [{ path := "idc.write_dbg_memory", args := [.int address, .byteString bytes] }] := by
  let c : Call := { path := "idc.write_dbg_memory", args := [.int address, .byteString bytes] }
  obtain ⟨encoded, hex⟩ : ∃ text, (Value.byteString bytes).hexEncoded = .ok text := ⟨_, rfl⟩
  obtain ⟨v, written⟩ := co.answers (calls ++ [syncCall "WriteMemoryCallable"]) c
  have encodes (calls : List Call) :
      (liftFault (Value.byteString bytes).hexEncoded : Probe String).run.run calls =
        (.ok encoded, calls) := by
    rw [hex]
    exact Probe.liftFault_ok_run encoded
  -- the action logs the bytes again before its call
  have action : (do
      let encoded ← liftFault (Value.byteString bytes).hexEncoded
      let _ ← liftFault (Value.interpolate "gdb target write memory at %x value %s "
        (.many [.int address, .str encoded]))
      (Probe.replying backend).send c : Probe Value).run.run
        (calls ++ [syncCall "WriteMemoryCallable"]) =
      (.ok v, calls ++ [syncCall "WriteMemoryCallable"] ++ [c]) := by
    rw [Probe.bind_ok (encodes _), liftFault_interpolate_bind rfl, Probe.replying_send_run, written]
  unfold writeMemory
  rw [Steps, Probe.bind_ok (encodes calls), liftFault_interpolate_bind rfl,
    settled_cooperating co action]
  exact ⟨v, [syncCall "WriteMemoryCallable", c], by simp, trivial, rfl⟩

theorem annotate_cooperating (kind : String) (addresses : List Int) (c : Call)
    (touches : touchesCode c = true) (calls : List Call) :
    Steps (annotate (Probe.replying backend) kind (addresses.map Value.int) c) calls
      (fun _ => True) [c] := by
  obtain ⟨v, replied⟩ := co.answers (calls ++ [syncCall kind]) c
  have action : (do
      for a in addresses.map Value.int do
        let _ ← liftFault a.hexLiteral
      (Probe.replying backend).send c : Probe Value).run.run (calls ++ [syncCall kind]) =
      (.ok v, calls ++ [syncCall kind] ++ [c]) := by
    rw [forIn_hexLiteral_ints, pure_bind, Probe.replying_send_run, replied]
  unfold Steps annotate
  rw [settled_cooperating co action]
  exact ⟨v, [syncCall kind, c], by simp, trivial, by simp [touchesCode_syncCall, touches]⟩

theorem makeUnknown_cooperating (address size : Int) (calls : List Call) :
    Steps (makeUnknown (Probe.replying backend) (.int address) (.int size)) calls (fun _ => True)
      [{ path := "idc.MakeUnkn", args := [.int address, .int size] }] :=
  annotate_cooperating co "MakeUnknown" [address] _ rfl calls

theorem repeatMakeCode_cooperating (address : Int) (n : Nat) (calls : List Call) :
    Steps (repeatAction (makeCode (Probe.replying backend) (.int address)) n) calls (fun _ => True)
      (List.replicate n { path := "idc.MakeCode", args := [.int address] }) := by
  induction n generalizing calls with
  | zero => exact ⟨(), [], by simp [repeatAction]; rfl, trivial, rfl⟩
  | succ n ih =>
    have marked : Steps (makeCode (Probe.replying backend) (.int address)) calls (fun _ => True)
        [{ path := "idc.MakeCode", args := [.int address] }] :=
      annotate_cooperating co "MakeCode" [address] _ rfl calls
    obtain ⟨_, first, once, -, markedOnce⟩ := marked
    obtain ⟨_, extra, rest, -, filtered⟩ := ih (calls ++ first)
    unfold repeatAction
    rw [Steps, Probe.bind_ok once, rest]
    refine ⟨(), first ++ extra, by simp, trivial, ?_⟩
    rw [List.filter_append, markedOnce, filtered, List.replicate_succ]
    rfl

theorem setBreakpoint_cooperating (api : IdaApi) (address : Int) (calls : List Call) :
    Steps (setBreakpoint (Probe.replying backend) api (.int address) (.bool false)) calls
      (fun _ => True)
      [{ path := "idc.add_bpt", args := [.int address, .int (api.bptSoft ||| api.bptExec : Nat)] },
        { path := "idc.enable_bpt", args := [.int address, .bool true] }] := by
  let flag : Int := (api.bptSoft ||| api.bptExec : Nat)
  let add : Call := { path := "idc.add_bpt", args := [.int address, .int flag] }
  let enable : Call := { path := "idc.enable_bpt", args := [.int address, .bool true] }
  obtain ⟨a, added⟩ := co.answers (calls ++ [syncCall "SetBreakpointCallable"]) add
  obtain ⟨v, fits, enabled⟩ := co.enabled (calls ++ [syncCall "SetBreakpointCallable"] ++ [add])
    (.int address)
  have action : (do
      let _ ← (Probe.replying backend).send add
      let enabled ← (Probe.replying backend).send enable
      let _ ← liftFault (Value.interpolate "bp flag value %x enable_res %s"
        (.many [.int flag, enabled]))
      pure enabled : Probe Value).run.run (calls ++ [syncCall "SetBreakpointCallable"]) =
      (.ok v, calls ++ [syncCall "SetBreakpointCallable"] ++ [add] ++ [enable]) := by
    rw [Probe.bind_ok (by rw [Probe.replying_send_run, added]),
      Probe.bind_ok (by rw [Probe.replying_send_run, enabled]),
      liftFault_interpolate_bind (fills_enabled fits flag)]
    rfl
  unfold setBreakpoint
  rw [Steps, liftFault_interpolate_bind rfl]
  -- a software breakpoint: the flag is the software kind together with the execution kind
  simp only [show ((if (Value.bool false).truthy then api.bptExec else api.bptSoft ||| api.bptExec :
    Nat) : Int) = flag from rfl]
  rw [settled_cooperating co action]
  exact ⟨v, [syncCall "SetBreakpointCallable", add, enable], by simp, trivial, rfl⟩

theorem removeBreakpoint_cooperating (address : Int) (calls : List Call) :
    Steps (removeBreakpoint (Probe.replying backend) (.int address)) calls (fun _ => True)
      [{ path := "idc.del_bpt", args := [.int address] }] := by
  let c : Call := { path := "idc.del_bpt", args := [.int address] }
  obtain ⟨v, deleted⟩ := co.answers (calls ++ [syncCall "DeleteBreakpointCallable"]) c
  unfold removeBreakpoint
  rw [Steps, liftFault_interpolate_bind rfl, settled_send co deleted]
  exact ⟨v, _, rfl, trivial, rfl⟩

theorem run_cooperating (api : IdaApi) (calls : List Call) :
    Steps (run (Probe.replying backend) api) calls (fun _ => True)
      [{ path := "idaapi.continue_process" }] := by
  let resume : Call := { path := "idaapi.continue_process" }
  let wait : Call := { path := "idc.GetDebuggerEvent", args := [.int api.waitSuspend, .int (-1)] }
  let pc : Call := { path := "idc.get_reg_value", args := [.str "eip"] }
  obtain ⟨at_, read⟩ := co.registers
    (calls ++ [syncCall "ResumeAndWaitBreakpoint"] ++ [resume] ++ [wait]) (.str "eip")
  have action : (do
      (Probe.replying backend).notify resume
      (Probe.replying backend).notify wait
      let pc ← (Probe.replying backend).send pc
      let _ ← liftFault pc.hexLiteral
      pure Value.none : Probe Value).run.run (calls ++ [syncCall "ResumeAndWaitBreakpoint"]) =
      (.ok .none, calls ++ [syncCall "ResumeAndWaitBreakpoint"] ++ [resume] ++ [wait] ++ [pc]) := by
    rw [Probe.bind_ok (notify_cooperating co _ _), Probe.bind_ok (notify_cooperating co _ _),
      Probe.bind_ok (by rw [Probe.replying_send_run, read]), Value.hexLiteral_int]
    rfl
  unfold run
  rw [Steps, Probe.bind_ok ((submit_cooperating co _ _ calls).trans (attempt_run action))]
  exact ⟨.none, [syncCall "ResumeAndWaitBreakpoint", resume, wait, pc], by simp; rfl, trivial, rfl⟩

end Cooperating

/-- On a backend that takes every step, an injection of `n ≥ 1` bytes at image base `b`
returns the register's value, and the calls that touch the code are, in order: the code
written at `b`, its bytes made unknown, `b` made code `n` times, one breakpoint added and
enabled at `b + n - 2`, the run, that breakpoint deleted, and the saved bytes written back.
The breakpoint lies in `[b, b + n)` exactly when `n ≥ 2`. -/
theorem inject_marks_base_only (base : Int) (backend : List Call → Call → Except Fault Value)
    (co : Cooperates base backend) (api : IdaApi) (code : List UInt8) (nonempty : 0 < code.length)
    (register : String) :
    let n := code.length
    let stop := base + n - 2
    ∃ (result : Int) (saved : List UInt8) (calls : List Call),
      (inject (Probe.replying backend) api (.byteString code) (.str register)).run.run [] =
        (.ok (.int result), calls) ∧
      calls.filter touchesCode =
        [{ path := "idc.write_dbg_memory", args := [.int base, .byteString code] },
          { path := "idc.MakeUnkn", args := [.int base, .int n] }] ++
        List.replicate n { path := "idc.MakeCode", args := [.int base] } ++
        [{ path := "idc.add_bpt", args := [.int stop, .int (api.bptSoft ||| api.bptExec : Nat)] },
          { path := "idc.enable_bpt", args := [.int stop, .bool true] },
          { path := "idaapi.continue_process" },
          { path := "idc.del_bpt", args := [.int stop] },
          { path := "idc.write_dbg_memory", args := [.int base, .byteString saved] }] ∧
      (base ≤ stop ∧ stop < base + n ↔ 2 ≤ n) := by
  intro n stop
  -- what is claimed of the run, as a property of its outcome, so each step passes it on
  let Marked : Except Fault Value × List Call → Prop := fun r =>
    ∃ (result : Int) (saved : List UInt8), r.1 = .ok (.int result) ∧
      r.2.filter touchesCode =
        [{ path := "idc.write_dbg_memory", args := [.int base, .byteString code] },
          { path := "idc.MakeUnkn", args := [.int base, .int n] }] ++
        List.replicate n { path := "idc.MakeCode", args := [.int base] } ++
        [{ path := "idc.add_bpt", args := [.int stop, .int (api.bptSoft ||| api.bptExec : Nat)] },
          { path := "idc.enable_bpt", args := [.int stop, .bool true] },
          { path := "idaapi.continue_process" },
          { path := "idc.del_bpt", args := [.int stop] },
          { path := "idc.write_dbg_memory", args := [.int base, .byteString saved] }]
  suffices marked :
      Marked ((inject (Probe.replying backend) api (.byteString code) (.str register)).run.run []) by
    obtain ⟨result, saved, ran, filtered⟩ := marked
    exact ⟨result, saved, _, Prod.ext ran rfl, filtered, by omega⟩
  obtain ⟨encoded, hex⟩ : ∃ text, (Value.byteString code).hexEncoded = .ok text := ⟨_, rfl⟩
  unfold inject
  rw [Value.length_byteString code, Probe.bind_ok (Probe.liftFault_ok_run _), hex,
    Probe.bind_ok (Probe.liftFault_ok_run _),
    Probe.bind_ok (by rw [Probe.replying_send_run, co.imageBase])]
  -- saving `eip`, the bytes under the code and the register
  refine Steps.bind Marked (readRegister_cooperating co "eip" _) ?_
  rintro _ e1 ⟨pc, rfl⟩ quiet1
  rw [liftFault_interpolate_bind rfl]
  refine Steps.bind Marked (readMemory_cooperating co base n nonempty _) ?_
  rintro _ e2 ⟨saved, rfl⟩ quiet2
  rw [show (Value.byteString saved).hexEncoded = .ok _ from rfl,
    Probe.bind_ok (Probe.liftFault_ok_run _)]
  refine Steps.bind Marked (readRegister_cooperating co register _) ?_
  rintro _ e3 ⟨savedRegister, rfl⟩ quiet3
  rw [liftFault_interpolate_bind rfl]
  -- writing the code and marking it
  refine Steps.bind Marked (writeMemory_cooperating co base code _) ?_
  rintro - e4 - touched4
  refine Steps.bind Marked (makeUnknown_cooperating co base n _) ?_
  rintro - e5 - touched5
  rw [Value.renderLimited_int co.fits, Probe.bind_ok (Probe.liftFault_ok_run _),
    Probe.bind_ok (Probe.replying_print_run _ _ _), Value.add_int,
    Probe.bind_ok (Probe.liftFault_ok_run _), Value.toIndex_int,
    Probe.bind_ok (Probe.liftFault_ok_run _), Value.toIndex_int,
    Probe.bind_ok (Probe.liftFault_ok_run _)]
  refine Steps.bind Marked (repeatMakeCode_cooperating co base n _) ?_
  rintro - e6 - touched6
  -- the breakpoint two bytes before the end, and the run from the base
  rw [show (Except.ok (Value.int (base + n)) >>= fun e => e.sub (.int 2) :
      Except Fault Value) = .ok (.int stop) from rfl,
    Probe.bind_ok (Probe.liftFault_ok_run _)]
  refine Steps.bind Marked (setBreakpoint_cooperating co api stop _) ?_
  rintro - e7 - touched7
  refine Steps.bind Marked (writeRegister_cooperating co "eip" (.int base) _) ?_
  rintro - e8 - quiet8
  refine Steps.bind Marked (run_cooperating co api _) ?_
  rintro - e9 - touched9
  refine Steps.bind Marked (readRegister_cooperating co register _) ?_
  rintro _ e10 ⟨result, rfl⟩ quiet10
  rw [Value.hexLiteral_int, Probe.bind_ok (Probe.liftFault_ok_run _)]
  -- putting back `eip`, then the breakpoint, the bytes and the register
  refine Steps.bind Marked (writeRegister_cooperating co "eip" (.int pc) _) ?_
  rintro - e11 - quiet11
  refine Steps.bind Marked (readRegister_cooperating co "eip" _) ?_
  rintro _ e12 ⟨current, rfl⟩ quiet12
  rw [liftFault_interpolate_bind rfl]
  refine Steps.bind Marked (removeBreakpoint_cooperating co stop _) ?_
  rintro - e13 - touched13
  refine Steps.bind Marked (writeMemory_cooperating co base saved _) ?_
  rintro - e14 - touched14
  refine Steps.bind Marked (writeRegister_cooperating co register (.int savedRegister) _) ?_
  rintro - e15 - quiet15
  refine ⟨result, saved, rfl, ?_⟩
  -- the calls made, step by step; each step's share of those touching the code is known
  rw [show ∀ made : List Call, ((pure (Value.int result) : Probe Value).run.run made).2 = made
    from fun _ => rfl]
  simp only [List.filter_append, quiet1, quiet2, quiet3, touched4, touched5, touched6, touched7,
    quiet8, touched9, quiet10, quiet11, quiet12, touched13, touched14, quiet15]
  simp [touchesCode]

/-- A backend that takes every step: image base `0x400000`, registers reading 0, memory
reading `nop`s, and a true reply to every other call. -/
def steadyIda (_ : List Call) (c : Call) : Except Fault Value :=
  match c.path, c.args with
  | "idaapi.get_imagebase", _ => .ok (.int 0x400000)
  | "idc.get_reg_value", _ => .ok (.int 0)
  | "idc.read_dbg_memory", [_, .int count] => .ok (.byteString (List.replicate count.toNat 0x90))
  | _, _ => .ok (.bool true)

theorem steadyIda_cooperates : Cooperates 0x400000 steadyIda where
  answers calls c := by
    unfold steadyIda
    split <;> exact ⟨_, rfl⟩
  imageBase _ := rfl
  registers _ _ := ⟨0, rfl⟩
  memory _ _ count := ⟨_, List.length_replicate, rfl⟩
  enabled _ _ := ⟨.bool true, rfl, rfl⟩
  fits := Value.decimalFits_of_word (by decide)

theorem inject_marks_base_twice_on_steady :
    Cooperates 0x400000 steadyIda ∧ 0 < [(0xcc : UInt8), 0xcc].length ∧
      ∃ (result : Int) (saved : List UInt8) (calls : List Call),
        (inject (Probe.replying steadyIda) .idc (.byteString [0xcc, 0xcc]) (.str "eax")).run.run [] =
          (.ok (.int result), calls) ∧
        calls.filter touchesCode =
          [{ path := "idc.write_dbg_memory", args := [.int 0x400000, .byteString [0xcc, 0xcc]] },
            { path := "idc.MakeUnkn", args := [.int 0x400000, .int 2] },
            { path := "idc.MakeCode", args := [.int 0x400000] },
            { path := "idc.MakeCode", args := [.int 0x400000] },
            { path := "idc.add_bpt", args := [.int 0x400000, .int 12] },
            { path := "idc.enable_bpt", args := [.int 0x400000, .bool true] },
            { path := "idaapi.continue_process" },
            { path := "idc.del_bpt", args := [.int 0x400000] },
            { path := "idc.write_dbg_memory", args := [.int 0x400000, .byteString saved] }] ∧
        (0x400000 ≤ 0x400000 + 2 - 2 ∧ 0x400000 + 2 - 2 < 0x400000 + 2 ↔ 2 ≤ 2) :=
  by
  obtain ⟨result, saved, calls, ran, filtered, -⟩ :=
    inject_marks_base_only 0x400000 steadyIda steadyIda_cooperates .idc [0xcc, 0xcc] (by decide) "eax"
  refine ⟨steadyIda_cooperates, by decide, result, saved, calls, ran, ?_, by decide⟩
  rw [filtered]
  rfl

end IdaTarget

end DebugBridge
