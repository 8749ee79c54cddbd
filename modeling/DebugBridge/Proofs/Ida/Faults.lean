import DebugBridge.Ida
import DebugBridge.Proofs.Gdb.Faults
/-!
# What the IDA adapter lets through from its backend

Against any backend (`Probe`) whose main thread runs every action (`RunsActions`), most
operations end in their action's result or, when it failed, in their own fault with no text
(`flagged`). Three do not: reading memory calls the debugger outside any guard, running the
process drops the action's failure, and listing the mappings builds each region from three
values where four are needed, so it returns only when IDA lists no module. A `pc` is
resolved outside any action, and a failure there comes out as it is. `SettlesActions`
gathers all of it (`operations_settle_their_actions`).
-/

namespace DebugBridge

set_option autoImplicit false

namespace IdaTarget

def syncCall (kind : String) : Call := { path := "idaapi.execute_sync", args := [.handle kind, .int 0] }

/-- IDA's main thread takes every action it is handed: handing one over never fails. -/
def RunsActions (backend : Call → Except Fault Value) : Prop :=
  ∀ kind, ∃ v, backend (syncCall kind) = .ok v

/-- How an operation that checks its action ends: with the action's result, or with its own
fault, empty, when the action failed. -/
def flagged (failure : Fault) : Except Fault Value → Except Fault Value
  | .ok v => .ok v
  | .error _ => .error failure

/-- A reply that an action also writes into a log line: the reply, or a failure when the
reply has no text. -/
def logged (reply : Except Fault Value) : Except Fault Value :=
  reply.bind fun v => if v.textFits then .ok v else .error .decimalTooLong

/-- The register name an operation hands to IDA: `pc` becomes `rip` or `eip` by the word size
IDA reports, and a failure of that question comes out as it is; other names stay. -/
def resolvedName (backend : Call → Except Fault Value) (register : String) : Except Fault String :=
  if register = "pc" then do
    let _ ← backend { path := "idaapi.get_inf_structure" }
    let wide ← backend { path := "inf.is_64bit" }
    pure (if wide.truthy then "rip" else "eip")
  else .ok register

def ending (op : Probe Value) : Except Fault Value := (op.run.run []).1

section Actions

variable (backend : Call → Except Fault Value)

theorem notify_run (c : Call) (calls : List Call) :
    ((Probe.link backend).notify c).run.run calls = ((backend c).map fun _ => (), calls ++ [c]) := by
  unfold Link.notify
  cases reply : backend c with
  | ok v =>
    rw [Probe.bind_ok (by rw [Probe.send_run, reply])]
    rfl
  | error e =>
    rw [Probe.bind_error (by rw [Probe.send_run, reply])]
    rfl

variable {backend} (runs : RunsActions backend)
include runs

theorem submit_run {α : Type} (kind : String) (action : Probe α) (calls : List Call) :
    (submit (Probe.link backend) kind action).run.run calls =
      action.run.run (calls ++ [syncCall kind]) := by
  obtain ⟨v, taken⟩ := runs kind
  have notified : ((Probe.link backend).notify (syncCall kind)).run.run calls =
      (.ok (), calls ++ [syncCall kind]) := by
    rw [notify_run, taken]
    rfl
  unfold submit
  exact Probe.bind_ok notified

omit runs in
theorem attempt_run {body : Probe Value} {calls after : List Call} {r : Except Fault Value}
    (ran : body.run.run calls = (r, after)) :
    (attempt body).run.run calls = (.ok r.toOption, after) := by
  unfold attempt rescue
  have mapped : (some <$> body).run.run calls = (r.map some, after) := by
    rw [ExceptT.run_map, StateT.run_map, ran]
    rfl
  cases r with
  | ok v => exact Probe.tryCatch_ok mapped
  | error e =>
    rw [Probe.tryCatch_error mapped]
    rfl

theorem flagged_run {kind : String} {failure : Fault} {body : Probe Value} {calls after : List Call}
    {r : Except Fault Value} (ran : body.run.run (calls ++ [syncCall kind]) = (r, after)) :
    (do
      let outcome ← submit (Probe.link backend) kind (attempt body)
      settle failure outcome : Probe Value).run.run calls = (flagged failure r, after) := by
  rw [Probe.bind_ok ((submit_run runs kind _ calls).trans (attempt_run ran))]
  cases r <;> rfl

omit runs in
theorem resolve_run (register : String) (calls : List Call) :
    ∃ after, (resolve (Probe.link backend) (.str register)).run.run calls =
      ((resolvedName backend register).map .str, after) := by
  unfold resolve resolvedName
  by_cases isPc : register = "pc"
  · subst isPc
    simp only [if_true]
    rw [show Value.same (.str "pc") (.str "pc") = true from rfl, if_pos rfl]
    cases asked : backend { path := "idaapi.get_inf_structure" } with
    | error e =>
      refine ⟨_, Probe.bind_error (by rw [notify_run, asked]; rfl)⟩
    | ok info =>
      rw [Probe.bind_ok (by rw [notify_run, asked]; rfl)]
      cases wide : backend { path := "inf.is_64bit" } with
      | error e => exact ⟨_, Probe.bind_error (by rw [Probe.send_run, wide])⟩
      | ok w => exact ⟨_, Probe.bind_ok (by rw [Probe.send_run, wide])⟩
  · have differs : Value.same (.str register) (.str "pc") = false := by
      simpa [Value.same] using isPc
    rw [differs, if_neg isPc]
    exact ⟨calls, rfl⟩

end Actions

section Modules

theorem ofArgs_three (start stop name : Value) :
    MemoryMap.ofArgs [start, stop, name] =
      .error (.missingArguments "MemoryMap.__init__" ["name"]) := rfl

/-- No module makes a region: either a field is missing, or the region is built from three
values where it takes four. -/
theorem regionOfModule_fails (module : Value) : ∃ f, regionOfModule module = .error f := by
  unfold regionOfModule
  cases hasBase : module.attr "base" with
  | error e => exact ⟨e, rfl⟩
  | ok base =>
    cases hasSize : module.attr "size" with
    | error e => exact ⟨e, by simp [bind, Except.bind]⟩
    | ok size =>
      cases stopped : base.add size with
      | error e => exact ⟨e, by simp [stopped, bind, Except.bind]⟩
      | ok stop =>
        cases hasName : module.attr "name" with
        | error e => exact ⟨e, by simp [stopped, bind, Except.bind]⟩
        | ok name =>
          refine ⟨.missingArguments "MemoryMap.__init__" ["name"], ?_⟩
          simp only [stopped, bind, Except.bind]
          exact ofArgs_three base stop name

theorem regionOfModule_arity {module : Value} {base size : Int} {name : Value}
    (hasBase : module.attr "base" = .ok (.int base)) (hasSize : module.attr "size" = .ok (.int size))
    (hasName : module.attr "name" = .ok name) :
    regionOfModule module = .error (.missingArguments "MemoryMap.__init__" ["name"]) := by
  unfold regionOfModule
  rw [hasBase, hasSize, hasName]
  rfl

end Modules

section Operations

variable {backend : Call → Except Fault Value} (runs : RunsActions backend)
include runs

theorem resolved_flagged (register kind : String) (call : Value → Call) :
    ending (do
      let name ← resolve (Probe.link backend) (.str register)
      let outcome ← submit (Probe.link backend) kind (attempt ((Probe.link backend).send (call name)))
      settle (.register "") outcome) =
      (resolvedName backend register).bind fun name =>
        flagged (.register "") (backend (call (.str name))) := by
  obtain ⟨after, resolved⟩ := @resolve_run backend register []
  unfold ending
  rw [Probe.bind_result resolved]
  cases resolvedName backend register with
  | error e => rfl
  | ok name =>
    rw [Except.map, Except.bind, flagged_run runs (Probe.send_run backend _)]
    rfl

theorem readRegister_outcome (register : String) :
    ending (readRegister (Probe.link backend) (.str register)) =
      (resolvedName backend register).bind fun name =>
        flagged (.register "") (backend { path := "idc.get_reg_value", args := [.str name] }) :=
  resolved_flagged runs register "ReadRegisterCallable" fun name =>
    { path := "idc.get_reg_value", args := [name] }

theorem writeRegister_outcome (register : String) (value : Value) :
    ending (writeRegister (Probe.link backend) (.str register) value) =
      (resolvedName backend register).bind fun name =>
        flagged (.register "")
          (backend { path := "idc.set_reg_value", args := [value, .str name] }) :=
  resolved_flagged runs register "WriteRegisterCallable" fun name =>
    { path := "idc.set_reg_value", args := [value, name] }

/-- A memory read is not guarded: a fault of IDA's read comes out as it is, and a reply
that is empty or false is an empty memory fault. -/
theorem readMemory_outcome (address : Int) (nbytes : Value) :
    ending (readMemory (Probe.link backend) (.int address) nbytes) =
      (backend { path := "idc.read_dbg_memory", args := [.int address, nbytes] }).bind fun reply =>
        if reply.truthy then .ok reply else .error (.memory "") := by
  let c : Call := { path := "idc.read_dbg_memory", args := [.int address, nbytes] }
  -- the action's own call is the one outside any guard
  have action : ∃ after, ((liftFault (Value.interpolate "ida target reads memory at %x"
        (.one (.int address))) >>= fun _ => do
      let reply ← (Probe.link backend).send c
      pure (if reply.truthy then some reply else Option.none)) : Probe (Option Value)).run.run
        ([] ++ [syncCall "ReadMemoryCallable"]) =
      ((backend c).map fun reply => if reply.truthy then some reply else Option.none, after) := by
    rw [liftFault_interpolate_bind rfl]
    cases reply : backend c with
    | ok v => exact ⟨_, Probe.bind_ok (by rw [Probe.send_run, reply])⟩
    | error e => exact ⟨_, Probe.bind_error (by rw [Probe.send_run, reply])⟩
  obtain ⟨after, ran⟩ := action
  unfold ending readMemory
  rw [liftFault_interpolate_bind rfl, Probe.bind_result ((submit_run runs _ _ []).trans ran)]
  cases backend c with
  | error e => rfl
  | ok v =>
    change ((settle (.memory "") (if v.truthy then some v else Option.none) : Probe Value).run.run
      after).1 =
      if v.truthy then .ok v else .error (.memory "")
    cases v.truthy <;> rfl

theorem writeMemory_outcome (address : Int) (bytes : List UInt8) :
    ending (writeMemory (Probe.link backend) (.int address) (.byteString bytes)) =
      flagged (.memory "")
        (backend { path := "idc.write_dbg_memory", args := [.int address, .byteString bytes] }) := by
  obtain ⟨encoded, hex⟩ : ∃ text, (Value.byteString bytes).hexEncoded = .ok text := ⟨_, rfl⟩
  have encodes (calls : List Call) :
      (liftFault (Value.byteString bytes).hexEncoded : Probe String).run.run calls =
        (.ok encoded, calls) := by
    rw [hex]
    exact Probe.liftFault_ok_run encoded
  -- the action logs the bytes again before its call
  have action (calls : List Call) : (do
      let encoded ← liftFault (Value.byteString bytes).hexEncoded
      let _ ← liftFault (Value.interpolate "gdb target write memory at %x value %s "
        (.many [.int address, .str encoded]))
      (Probe.link backend).send
        { path := "idc.write_dbg_memory", args := [.int address, .byteString bytes] } :
        Probe Value).run.run calls =
      (backend { path := "idc.write_dbg_memory", args := [.int address, .byteString bytes] },
        calls ++ [{ path := "idc.write_dbg_memory", args := [.int address, .byteString bytes] }]) := by
    rw [Probe.bind_ok (encodes calls), liftFault_interpolate_bind rfl]
    exact Probe.send_run backend _
  unfold ending writeMemory
  rw [Probe.bind_ok (encodes []), liftFault_interpolate_bind rfl, flagged_run runs (action _)]

omit runs in
theorem interpolate_enabled_unfit {enabled : Value} (unfit : enabled.textFits = false) (flag : Int) :
    Value.interpolate "bp flag value %x enable_res %s" (.many [.int flag, enabled]) =
      .error .decimalTooLong := by
  simp [Value.interpolate, Value.fillFrom, Value.convert, Value.renderLimited, unfit,
    Value.FormatArgs.values, bind, Except.bind, Value.asInt?]

omit runs in
theorem fills_enabled {enabled : Value} (fits : enabled.textFits = true) (flag : Int) :
    Value.fills "bp flag value %x enable_res %s" (.many [.int flag, enabled]) = true := by
  unfold Value.fills
  rw [show Value.conversionLetters "bp flag value %x enable_res %s".toList = some ['x', 's'] from rfl]
  simp [Value.FormatArgs.values, Value.takesAll, Value.takes, fits, Value.asInt?]

theorem setBreakpoint_outcome (api : IdaApi) (address : Int) (hardware : Value) :
    ending (setBreakpoint (Probe.link backend) api (.int address) hardware) =
      flagged (.breakpoint "")
        ((backend { path := "idc.add_bpt", args := [.int address,
            .int (if hardware.truthy then api.bptExec else api.bptSoft ||| api.bptExec : Nat)] }).bind
          fun _ => logged (backend { path := "idc.enable_bpt", args := [.int address, .bool true] })) := by
  let flag : Int := (if hardware.truthy then api.bptExec else api.bptSoft ||| api.bptExec : Nat)
  let add : Call := { path := "idc.add_bpt", args := [.int address, .int flag] }
  let enable : Call := { path := "idc.enable_bpt", args := [.int address, .bool true] }
  have action (calls : List Call) : ∃ after, (do
      let _ ← (Probe.link backend).send add
      let enabled ← (Probe.link backend).send enable
      let _ ← liftFault (Value.interpolate "bp flag value %x enable_res %s"
        (.many [.int flag, enabled]))
      pure enabled : Probe Value).run.run calls =
      ((backend add).bind fun _ => logged (backend enable), after) := by
    cases added : backend add with
    | error e => exact ⟨_, Probe.bind_error (by rw [Probe.send_run, added])⟩
    | ok a =>
      rw [Probe.bind_ok (by rw [Probe.send_run, added])]
      cases enabled : backend enable with
      | error e => exact ⟨_, Probe.bind_error (by rw [Probe.send_run, enabled])⟩
      | ok v =>
        rw [Probe.bind_ok (by rw [Probe.send_run, enabled])]
        -- the reply of enabling goes into the log line, which needs its text
        cases fits : v.textFits
        · rw [interpolate_enabled_unfit fits]
          simp only [Except.bind, logged, fits, Bool.false_eq_true, ↓reduceIte]
          exact ⟨_, Probe.bind_error rfl⟩
        · rw [liftFault_interpolate_bind (fills_enabled fits flag)]
          simp only [Except.bind, logged, fits, ↓reduceIte]
          exact ⟨_, rfl⟩
  obtain ⟨after, ran⟩ := action ([] ++ [syncCall "SetBreakpointCallable"])
  unfold ending setBreakpoint
  rw [liftFault_interpolate_bind rfl]
  dsimp only
  rw [flagged_run runs ran]

theorem removeBreakpoint_outcome (address : Int) :
    ending (removeBreakpoint (Probe.link backend) (.int address)) =
      flagged (.breakpoint "") (backend { path := "idc.del_bpt", args := [.int address] }) := by
  unfold ending removeBreakpoint
  rw [liftFault_interpolate_bind rfl, flagged_run runs (Probe.send_run backend _)]

theorem annotate_outcome (kind : String) (addresses : List Int) (c : Call) :
    ending (annotate (Probe.link backend) kind (addresses.map Value.int) c) =
      flagged (.raised "") (backend c) := by
  have action (calls : List Call) : (do
      for a in addresses.map Value.int do
        let _ ← liftFault a.hexLiteral
      (Probe.link backend).send c : Probe Value).run.run calls = (backend c, calls ++ [c]) := by
    rw [forIn_hexLiteral_ints, pure_bind]
    exact Probe.send_run backend c
  unfold ending annotate
  rw [flagged_run runs (action _)]

theorem editFunctionBoundaries_outcome (start stop : Int) :
    ending (editFunctionBoundaries (Probe.link backend) (.int start) (.int stop)) =
      flagged (.raised "")
        (logged (backend { path := "ida_funcs.set_func_end", args := [.int start, .int stop] })) := by
  let c : Call := { path := "ida_funcs.set_func_end", args := [.int start, .int stop] }
  have action (calls : List Call) : (do
      for a in [Value.int start, Value.int stop] do
        let _ ← liftFault a.hexLiteral
      let reply ← (Probe.link backend).send c
      let _ ← liftFault reply.renderLimited
      pure reply : Probe Value).run.run calls = (logged (backend c), calls ++ [c]) := by
    rw [show [Value.int start, Value.int stop] = [start, stop].map Value.int from rfl,
      forIn_hexLiteral_ints, pure_bind]
    cases reply : backend c with
    | error e =>
      rw [Probe.bind_error (by rw [Probe.send_run, reply])]
      rfl
    | ok v =>
      rw [Probe.bind_ok (by rw [Probe.send_run, reply])]
      unfold Value.renderLimited logged
      simp only [Except.bind]
      cases v.textFits <;> rfl
  unfold ending editFunctionBoundaries
  rw [flagged_run runs (action _)]

theorem run_outcome (api : IdaApi) : ending (run (Probe.link backend) api) = .ok .none := by
  let body : Probe Value := do
    (Probe.link backend).notify { path := "idaapi.continue_process" }
    (Probe.link backend).notify
      { path := "idc.GetDebuggerEvent", args := [.int api.waitSuspend, .int (-1)] }
    let pc ← (Probe.link backend).send { path := "idc.get_reg_value", args := [.str "eip"] }
    let _ ← liftFault pc.hexLiteral
    pure .none
  -- whatever the action ends in, its flag is dropped
  obtain ⟨r, after, ran⟩ : ∃ r after,
      body.run.run ([] ++ [syncCall "ResumeAndWaitBreakpoint"]) = (r, after) := ⟨_, _, rfl⟩
  unfold ending run
  rw [Probe.bind_ok ((submit_run runs _ _ []).trans (attempt_run ran))]
  rfl

theorem mappings_listed :
    ending (mappings (Probe.link backend)) =
      (flagged (.raised "") (backend { path := "idc._get_modules" })).bind fun modules =>
        modules.items.bind fun xs =>
          (xs.mapM regionOfModule).map fun regions => .list (regions.map MemoryMap.toValue) := by
  have listing := @flagged_run backend runs "GetMappings" (.raised "") _ [] _ _
    (Probe.send_run backend { path := "idc._get_modules" })
  -- one step of the do block at a time: the action, the module list, the regions
  unfold ending mappings
  rw [← bind_assoc, Probe.bind_result listing]
  congr 1
  funext modules
  rw [Probe.bind_result (Probe.liftFault_run _)]
  congr 1
  funext xs
  rw [Probe.bind_result (Probe.mapM_liftFault_run _ _)]
  cases xs.mapM regionOfModule <;> rfl

/-- Listing the mappings: a failed action is an empty plain fault; IDA listing no module
gives no region; and any module makes it fail, so it never returns a region. -/
theorem mappings_outcome :
    (∀ e, backend { path := "idc._get_modules" } = .error e →
      ending (mappings (Probe.link backend)) = .error (.raised "")) ∧
    (∀ modules, backend { path := "idc._get_modules" } = .ok modules → modules.items = .ok [] →
      ending (mappings (Probe.link backend)) = .ok (.list [])) ∧
    (∀ v, ending (mappings (Probe.link backend)) = .ok v → v = .list []) := by
  refine ⟨fun e failed => ?_, fun modules listed empty => ?_, fun v returned => ?_⟩
  · rw [mappings_listed runs, failed]
    rfl
  · rw [mappings_listed runs, listed]
    show modules.items.bind _ = _
    rw [empty]
    rfl
  · rw [mappings_listed runs] at returned
    cases listed : backend { path := "idc._get_modules" } with
    | error e =>
      rw [listed] at returned
      cases returned
    | ok modules =>
      rw [listed] at returned
      change modules.items.bind _ = _ at returned
      cases items : modules.items with
      | error e =>
        rw [items] at returned
        cases returned
      | ok xs =>
        rw [items] at returned
        change (xs.mapM regionOfModule).map _ = _ at returned
        -- the first module listed already fails
        cases xs with
        | nil => exact (Except.ok.inj returned).symm
        | cons x rest =>
          obtain ⟨f, fails⟩ := regionOfModule_fails x
          rw [List.mapM_cons, fails] at returned
          cases returned

end Operations

/-- How each operation that hands IDA an action ends, by the replies of the debugger's calls.
The register, memory-write, breakpoint and annotation operations end in the reply of their
call or in their own fault, with no text, when the call failed. A memory read lets a fault of
the debugger's call out as it is. Running the process always returns. Listing the mappings
fails with a plain fault when its call fails, returns the empty list when IDA lists no
module, and never returns a region. -/
def SettlesActions (api : IdaApi) (backend : Call → Except Fault Value) : Prop :=
  let link := Probe.link backend
  (∀ register, ending (readRegister link (.str register)) =
    (resolvedName backend register).bind fun name =>
      flagged (.register "") (backend { path := "idc.get_reg_value", args := [.str name] })) ∧
  (∀ register value, ending (writeRegister link (.str register) value) =
    (resolvedName backend register).bind fun name =>
      flagged (.register "") (backend { path := "idc.set_reg_value", args := [value, .str name] })) ∧
  (∀ address nbytes, ending (readMemory link (.int address) nbytes) =
    (backend { path := "idc.read_dbg_memory", args := [.int address, nbytes] }).bind fun reply =>
      if reply.truthy then .ok reply else .error (.memory "")) ∧
  (∀ address bytes, ending (writeMemory link (.int address) (.byteString bytes)) =
    flagged (.memory "")
      (backend { path := "idc.write_dbg_memory", args := [.int address, .byteString bytes] })) ∧
  (∀ address hardware, ending (setBreakpoint link api (.int address) hardware) =
    flagged (.breakpoint "")
      ((backend { path := "idc.add_bpt", args := [.int address,
          .int (if hardware.truthy then api.bptExec else api.bptSoft ||| api.bptExec : Nat)] }).bind
        fun _ => logged (backend { path := "idc.enable_bpt", args := [.int address, .bool true] }))) ∧
  (∀ address, ending (removeBreakpoint link (.int address)) =
    flagged (.breakpoint "") (backend { path := "idc.del_bpt", args := [.int address] })) ∧
  (∀ address size, ending (makeUnknown link (.int address) size) =
    flagged (.raised "") (backend { path := "idc.MakeUnkn", args := [.int address, size] })) ∧
  (∀ address, ending (makeCode link (.int address)) =
    flagged (.raised "") (backend { path := "idc.MakeCode", args := [.int address] })) ∧
  (∀ address, ending (makeFunction link (.int address)) =
    flagged (.raised "") (backend { path := "idc.MakeFunction", args := [.int address] })) ∧
  (∀ address text, ending (makeComment link (.int address) text) =
    flagged (.raised "") (backend { path := "idc.MakeComm", args := [.int address, text] })) ∧
  (∀ color address, ending (setLineColor link api color address) =
    flagged (.raised "")
      (backend { path := "idc.SetColor", args := [address, .int api.colorItem, color] })) ∧
  (∀ start stop, ending (editFunctionBoundaries link (.int start) (.int stop)) =
    flagged (.raised "")
      (logged (backend { path := "ida_funcs.set_func_end", args := [.int start, .int stop] }))) ∧
  ((∀ e, backend { path := "idc._get_modules" } = .error e →
      ending (mappings link) = .error (.raised "")) ∧
    (∀ modules, backend { path := "idc._get_modules" } = .ok modules → modules.items = .ok [] →
      ending (mappings link) = .ok (.list [])) ∧
    ∀ v, ending (mappings link) = .ok v → v = .list []) ∧
  ending (run link api) = .ok .none

/-- Whatever IDA's debugger replies or raises, as long as IDA's main thread runs the actions
it is handed, each operation ends as `SettlesActions` says. -/
theorem operations_settle_their_actions (api : IdaApi) {backend : Call → Except Fault Value}
    (runs : RunsActions backend) : SettlesActions api backend :=
  ⟨readRegister_outcome runs, writeRegister_outcome runs, readMemory_outcome runs,
    writeMemory_outcome runs, setBreakpoint_outcome runs api, removeBreakpoint_outcome runs,
    fun address _ => annotate_outcome runs "MakeUnknown" [address] _,
    fun address => annotate_outcome runs "MakeCode" [address] _,
    fun address => annotate_outcome runs "MakeFunction" [address] _,
    fun address _ => annotate_outcome runs "MakeComment" [address] _,
    fun _ _ => annotate_outcome runs "SetLineColor" [] _,
    editFunctionBoundaries_outcome runs,
    mappings_outcome runs, run_outcome runs api⟩

theorem operations_settle_their_actions_on_true_replies :
    RunsActions (fun _ => .ok (.bool true)) ∧ SettlesActions .idc (fun _ => .ok (.bool true)) :=
  ⟨fun _ => ⟨_, rfl⟩, operations_settle_their_actions .idc fun _ => ⟨_, rfl⟩⟩

end IdaTarget

end DebugBridge
