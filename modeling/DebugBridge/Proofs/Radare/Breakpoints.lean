import DebugBridge.Proofs.Radare.Registers
/-!
# Breakpoint checks through radare2, whatever it lists

After a breakpoint change the adapter checks radare2's breakpoint list (`dbj`) with `any`
over the entries that pass a test, in order, stopping at the first entry that decides it.
So the outcome depends on the order of entries; `StopsAt` is a scan stopping with a result.
A breakpoint entry is tested by its address alone, a watchpoint entry by its address and,
only at the address watched, by its `hw` flag. On a list whose entries all carry an address,
the check after adding passes exactly when the check after removing fails.
-/

namespace DebugBridge

set_option autoImplicit false

namespace Radare

section Scan

variable {α : Type} (test : α → Except Fault Bool)

/-- Scanning `entries` in order, every entry before some entry tests false and that entry
tests `r`. -/
def StopsAt (entries : List α) (r : Except Fault Bool) : Prop :=
  ∃ before e after, entries = before ++ e :: after ∧ (∀ b ∈ before, test b = .ok false) ∧ test e = r

theorem stopsAt_nil (r : Except Fault Bool) : ¬ StopsAt test [] r := by
  rintro ⟨before, e, after, split, -, -⟩
  cases before <;> cases split

theorem stopsAt_cons (e : α) (rest : List α) (r : Except Fault Bool) :
    StopsAt test (e :: rest) r ↔ test e = r ∨ (test e = .ok false ∧ StopsAt test rest r) := by
  constructor
  · rintro ⟨before, x, after, split, passed, stops⟩
    cases before with
    | nil =>
      cases split
      exact .inl stops
    | cons b before =>
      cases split
      refine .inr ⟨passed _ List.mem_cons_self, before, x, after, rfl, ?_, stops⟩
      exact fun y mem => passed y (List.mem_cons_of_mem _ mem)
  · rintro (stops | ⟨passed, before, x, after, rfl, passedRest, stops⟩)
    · exact ⟨[], e, rest, rfl, by simp, stops⟩
    · refine ⟨e :: before, x, after, rfl, ?_, stops⟩
      intro y mem
      rcases List.mem_cons.mp mem with rfl | mem
      · exact passed
      · exact passedRest y mem

theorem anyM_eq_ok_true (entries : List α) :
    entries.anyM test = .ok true ↔ StopsAt test entries (.ok true) := by
  induction entries with
  | nil => simp [List.anyM, stopsAt_nil, pure, Except.pure]
  | cons e rest ih =>
    rw [List.anyM_cons, stopsAt_cons, ← ih]
    cases test e with
    | error f => simp [bind, Except.bind]
    | ok hit => cases hit <;> simp [bind, Except.bind, pure, Except.pure]

theorem anyM_eq_error (entries : List α) (f : Fault) :
    entries.anyM test = .error f ↔ StopsAt test entries (.error f) := by
  induction entries with
  | nil => simp [List.anyM, stopsAt_nil, pure, Except.pure]
  | cons e rest ih =>
    rw [List.anyM_cons, stopsAt_cons, ← ih]
    cases test e with
    | error g => simp [bind, Except.bind]
    | ok hit => cases hit <;> simp [bind, Except.bind, pure, Except.pure]

theorem anyM_eq_ok_false (entries : List α) :
    entries.anyM test = .ok false ↔ ∀ e ∈ entries, test e = .ok false := by
  induction entries with
  | nil => simp [List.anyM, pure, Except.pure]
  | cons e rest ih =>
    rw [List.anyM_cons, List.forall_mem_cons, ← ih]
    cases test e with
    | error g => simp [bind, Except.bind]
    | ok hit => cases hit <;> simp [bind, Except.bind, pure, Except.pure]

theorem anyM_ok_of_total (entries : List α) (total : ∀ e ∈ entries, ∃ b, test e = .ok b) :
    ∃ b, entries.anyM test = .ok b := by
  cases scan : entries.anyM test with
  | ok b => exact ⟨b, rfl⟩
  | error f =>
    obtain ⟨before, e, after, rfl, -, failed⟩ := (anyM_eq_error test _ f).mp scan
    obtain ⟨b, decided⟩ := total e (by simp)
    rw [decided] at failed
    cases failed

theorem anyM_eq_ok_true_of_total (entries : List α) (total : ∀ e ∈ entries, ∃ b, test e = .ok b) :
    entries.anyM test = .ok true ↔ ∃ e ∈ entries, test e = .ok true := by
  constructor
  · intro found
    obtain ⟨before, e, after, rfl, -, hit⟩ := (anyM_eq_ok_true test _).mp found
    exact ⟨e, by simp, hit⟩
  · rintro ⟨e, mem, hit⟩
    obtain ⟨b, scan⟩ := anyM_ok_of_total test entries total
    cases b with
    | true => exact scan
    | false =>
      have missed := (anyM_eq_ok_false test entries).mp scan e mem
      rw [hit] at missed
      cases missed

end Scan

theorem anyEntry_dicts (test : Value → Except Fault Bool)
    (hits : ∀ e, test (.dict e) = .ok true → e ≠ []) (entries : List (List (String × Value))) :
    anyEntry (.list (entries.map .dict)) test = entries.anyM fun e => test (.dict e) := by
  unfold anyEntry
  show (entries.map Value.dict).anyM _ = _
  induction entries with
  | nil => rfl
  | cons e rest ih =>
    rw [List.map_cons, List.anyM_cons, List.anyM_cons, ← ih]
    cases tested : test (.dict e) with
    | error f => rfl
    | ok hit =>
      cases hit with
      | false => rfl
      | true =>
        have held : (Value.dict e).truthy = true := by
          simpa [Value.truthy, List.isEmpty_iff] using hits e tested
        simp [bind, Except.bind, held, pure, Except.pure]

section Entries

variable (a : Int) (e : List (String × Value))

def hasAddress : Bool := (Value.lookup "addr" e).isSome

def isAt : Bool :=
  match Value.lookup "addr" e with
  | some x => Value.same x (.int a)
  | none => false

/-- What the breakpoint check makes of one entry: an entry without an address is a missing
key, any other counts when its address is `a`. -/
def addressVerdict : Except Fault Bool :=
  match Value.lookup "addr" e with
  | none => .error (.missingKey (.str "addr"))
  | some x => .ok (Value.same x (.int a))

/-- What the watchpoint check makes of one entry. An entry without an address is a missing
key; an entry at another address does not count, and its `hw` flag is not read; an entry at
`a` counts when its `hw` flag is true, and is a missing key when it has none. -/
def watchVerdict : Except Fault Bool :=
  match Value.lookup "addr" e with
  | none => .error (.missingKey (.str "addr"))
  | some x =>
    if Value.same x (.int a) then
      match Value.lookup "hw" e with
      | none => .error (.missingKey (.str "hw"))
      | some h => .ok (Value.same h (.bool true))
    else .ok false

theorem atAddress_dict : atAddress (.int a) (.dict e) = addressVerdict a e := by
  unfold atAddress addressVerdict
  rw [index_dict_str]
  cases Value.lookup "addr" e <;> rfl

theorem hardwareAt_dict : hardwareAt (.int a) (.dict e) = watchVerdict a e := by
  unfold hardwareAt watchVerdict
  rw [index_dict_str, index_dict_str]
  cases Value.lookup "addr" e with
  | none => rfl
  | some x =>
    dsimp only [bind, Except.bind]
    cases Value.same x (.int a) with
    | false => rfl
    | true => cases Value.lookup "hw" e <;> rfl

theorem addressVerdict_eq_ok_true : addressVerdict a e = .ok true ↔ isAt a e = true := by
  unfold addressVerdict isAt
  cases Value.lookup "addr" e <;> simp

theorem addressVerdict_eq_ok_false :
    addressVerdict a e = .ok false ↔ hasAddress e = true ∧ isAt a e = false := by
  unfold addressVerdict isAt hasAddress
  cases Value.lookup "addr" e <;> simp

theorem addressVerdict_eq_error (f : Fault) :
    addressVerdict a e = .error f ↔ hasAddress e = false ∧ f = .missingKey (.str "addr") := by
  unfold addressVerdict hasAddress
  cases Value.lookup "addr" e with
  | none => simp [eq_comm]
  | some x => simp

theorem addressVerdict_of_hasAddress (addressed : hasAddress e = true) :
    addressVerdict a e = .ok (isAt a e) := by
  unfold hasAddress at addressed
  unfold addressVerdict isAt
  cases found : Value.lookup "addr" e with
  | none => simp [found] at addressed
  | some x => rfl

def hardware : Bool :=
  match Value.lookup "hw" e with
  | some h => Value.same h (.bool true)
  | none => false

def hasHardwareFlag : Bool := (Value.lookup "hw" e).isSome

/-- The watchpoint check passes over an entry: it has an address, and at `a` it has a `hw`
flag that is not true. The flag of an entry elsewhere is not read. -/
def PassesOver : Prop :=
  hasAddress e = true ∧ (isAt a e = true → hasHardwareFlag e = true ∧ hardware e = false)

theorem watchVerdict_eq_ok_true : watchVerdict a e = .ok true ↔ isAt a e = true ∧ hardware e = true := by
  unfold watchVerdict isAt hardware
  cases Value.lookup "addr" e with
  | none => simp
  | some x =>
    cases same : Value.same x (.int a) with
    | false => simp [same]
    | true => cases Value.lookup "hw" e <;> simp [same]

theorem watchVerdict_eq_ok_false : watchVerdict a e = .ok false ↔ PassesOver a e := by
  unfold watchVerdict PassesOver isAt hasAddress hardware hasHardwareFlag
  cases Value.lookup "addr" e with
  | none => simp
  | some x =>
    cases same : Value.same x (.int a) with
    | false => simp [same]
    | true => cases Value.lookup "hw" e <;> simp [same]

theorem watchVerdict_eq_error (f : Fault) :
    watchVerdict a e = .error f ↔
      (hasAddress e = false ∧ f = .missingKey (.str "addr")) ∨
      (isAt a e = true ∧ hasHardwareFlag e = false ∧ f = .missingKey (.str "hw")) := by
  unfold watchVerdict isAt hasAddress hasHardwareFlag
  cases Value.lookup "addr" e with
  | none =>
    simp only [Except.error.injEq, Option.isSome_none, true_and, Bool.false_eq_true, false_and,
      or_false]
    exact eq_comm
  | some x =>
    cases same : Value.same x (.int a) with
    | false => simp [same]
    | true =>
      cases Value.lookup "hw" e with
      | none =>
        simp only [same, if_true, Except.error.injEq, Option.isSome_some, Option.isSome_none,
          Bool.true_eq_false, false_and, true_and, false_or]
        exact eq_comm
      | some h => simp [same]

theorem watchVerdict_of_flagged (addressed : hasAddress e = true) (flagged : hasHardwareFlag e = true) :
    watchVerdict a e = .ok (isAt a e && hardware e) := by
  unfold hasAddress at addressed
  unfold hasHardwareFlag at flagged
  unfold watchVerdict isAt hardware
  cases found : Value.lookup "addr" e with
  | none => simp [found] at addressed
  | some x =>
    cases flag : Value.lookup "hw" e with
    | none => simp [flag] at flagged
    | some h => cases same : Value.same x (.int a) <;> simp [same]

theorem ne_nil_of_addressVerdict (counted : addressVerdict a e = .ok true) : e ≠ [] := by
  rintro rfl
  cases counted

theorem ne_nil_of_watchVerdict (counted : watchVerdict a e = .ok true) : e ≠ [] := by
  rintro rfl
  cases counted

end Entries

section Listing

variable (a : Int) (entries : List (List (String × Value)))

def ListedFirst : Prop :=
  ∃ before e after, entries = before ++ e :: after ∧ (∀ b ∈ before, hasAddress b = true) ∧
    isAt a e = true

def UnaddressedFirst : Prop :=
  ∃ before e after, entries = before ++ e :: after ∧
    (∀ b ∈ before, hasAddress b = true ∧ isAt a b = false) ∧ hasAddress e = false

def Unlisted : Prop := ∀ e ∈ entries, hasAddress e = true ∧ isAt a e = false

theorem listedFirst_iff : ListedFirst a entries ↔ StopsAt (addressVerdict a) entries (.ok true) := by
  constructor
  · rintro ⟨before, e, after, rfl, addressed, found⟩
    induction before with
    | nil => exact ⟨[], e, after, rfl, by simp, (addressVerdict_eq_ok_true a e).mpr found⟩
    | cons b before ih =>
      rw [List.cons_append, stopsAt_cons]
      cases here : isAt a b with
      | true => exact .inl ((addressVerdict_eq_ok_true a b).mpr here)
      | false =>
        refine .inr ⟨(addressVerdict_eq_ok_false a b).mpr ⟨addressed b List.mem_cons_self, here⟩, ?_⟩
        exact ih fun x mem => addressed x (List.mem_cons_of_mem b mem)
  · rintro ⟨before, e, after, rfl, passed, stops⟩
    refine ⟨before, e, after, rfl, fun b mem => ?_, (addressVerdict_eq_ok_true a e).mp stops⟩
    exact ((addressVerdict_eq_ok_false a b).mp (passed b mem)).1

theorem unaddressedFirst_iff :
    UnaddressedFirst a entries ↔
      StopsAt (addressVerdict a) entries (.error (.missingKey (.str "addr"))) := by
  simp only [UnaddressedFirst, StopsAt, addressVerdict_eq_ok_false, addressVerdict_eq_error,
    and_true]

theorem unlisted_iff : Unlisted a entries ↔ ∀ e ∈ entries, addressVerdict a e = .ok false := by
  simp only [Unlisted, addressVerdict_eq_ok_false]

end Listing

section Watching

variable (a : Int) (entries : List (List (String × Value)))

/-- Scanning the list in order, an entry at `a` with a true `hw` flag comes first, every entry
before it passed over. -/
def WatchedFirst : Prop :=
  ∃ before e after, entries = before ++ e :: after ∧ (∀ b ∈ before, PassesOver a b) ∧
    isAt a e = true ∧ hardware e = true

/-- Scanning the list in order, the first entry the watchpoint check cannot read lacks `key`:
it has no address, or it is at `a` and has no `hw` flag. -/
def UnreadableFirst (key : String) : Prop :=
  ∃ before e after, entries = before ++ e :: after ∧ (∀ b ∈ before, PassesOver a b) ∧
    ((hasAddress e = false ∧ key = "addr") ∨
      (isAt a e = true ∧ hasHardwareFlag e = false ∧ key = "hw"))

def Unwatched : Prop := ∀ e ∈ entries, PassesOver a e

theorem watchedFirst_iff : WatchedFirst a entries ↔ StopsAt (watchVerdict a) entries (.ok true) := by
  simp only [WatchedFirst, StopsAt, watchVerdict_eq_ok_false, watchVerdict_eq_ok_true]

theorem unreadableFirst_iff (key : String) :
    UnreadableFirst a entries key ↔
      StopsAt (watchVerdict a) entries (.error (.missingKey (.str key))) := by
  simp only [UnreadableFirst, StopsAt, watchVerdict_eq_ok_false, watchVerdict_eq_error,
    Fault.missingKey.injEq, Value.str.injEq]

theorem unwatched_iff : Unwatched a entries ↔ ∀ e ∈ entries, watchVerdict a e = .ok false := by
  simp only [Unwatched, watchVerdict_eq_ok_false]

theorem watchedFirst_iff_of_flagged
    (flagged : ∀ e ∈ entries, hasAddress e = true ∧ hasHardwareFlag e = true) :
    WatchedFirst a entries ↔ ∃ e ∈ entries, isAt a e = true ∧ hardware e = true := by
  have total : ∀ e ∈ entries, ∃ b, watchVerdict a e = .ok b := fun e mem =>
    ⟨_, watchVerdict_of_flagged a e (flagged e mem).1 (flagged e mem).2⟩
  rw [watchedFirst_iff, ← anyM_eq_ok_true, anyM_eq_ok_true_of_total _ _ total]
  simp only [watchVerdict_eq_ok_true]

end Watching

theorem addressScan_error (a : Int) (entries : List (List (String × Value))) (f : Fault)
    (failed : entries.anyM (addressVerdict a) = .error f) : f = .missingKey (.str "addr") := by
  obtain ⟨-, e, -, -, -, stops⟩ := (anyM_eq_error _ entries f).mp failed
  exact ((addressVerdict_eq_error a e f).mp stops).2

theorem addressScan_of_addressed (a : Int) (entries : List (List (String × Value)))
    (addressed : ∀ e ∈ entries, hasAddress e = true) :
    ∃ b, entries.anyM (addressVerdict a) = .ok b :=
  anyM_ok_of_total _ entries fun e mem => ⟨_, addressVerdict_of_hasAddress a e (addressed e mem)⟩

theorem watchScan_error (a : Int) (entries : List (List (String × Value))) (f : Fault)
    (failed : entries.anyM (watchVerdict a) = .error f) : ∃ key, f = .missingKey (.str key) := by
  obtain ⟨-, e, -, -, -, stops⟩ := (anyM_eq_error _ entries f).mp failed
  rcases (watchVerdict_eq_error a e f).mp stops with ⟨-, rfl⟩ | ⟨-, -, rfl⟩
  · exact ⟨"addr", rfl⟩
  · exact ⟨"hw", rfl⟩

section Operations

def changeFailure (what : String) (a : Int) : String :=
  (Value.interpolate ("R2ConcreteTarget failed to " ++ what ++ " at %x") (.one (.int a))).toOption.getD ""

theorem breakpointFault_run (what : String) (a : Int) (calls : List Call)
    (filled : Value.fills ("R2ConcreteTarget failed to " ++ what ++ " at %x") (.one (.int a)) = true) :
    (breakpointFault what (.int a) : Probe Value).run.run calls =
      (.error (.breakpoint (changeFailure what a)), calls) :=
  Probe.raiseFilled_run filled

theorem breakpointCheck_run (what : String) (a : Int) (calls : List Call)
    (filled : Value.fills ("R2ConcreteTarget failed to " ++ what ++ " at %x") (.one (.int a)) = true)
    (scan : Except Fault Bool) (shown : Bool → Bool) :
    (do
      if shown (← liftFault scan) then breakpointFault what (.int a)
      else pure .none : Probe Value).run.run calls =
      (scan.bind fun found =>
        if shown found then .error (.breakpoint (changeFailure what a)) else .ok .none, calls) := by
  cases scan with
  | error f => exact Probe.bind_error (Probe.liftFault_run _)
  | ok found =>
    rw [Probe.bind_ok (Probe.liftFault_ok_run _)]
    simp only [Except.bind]
    cases shown found with
    | true => exact breakpointFault_run what a calls filled
    | false => rfl

variable (backend : List Call → Call → Except Fault Value) (entries : List (List (String × Value)))

/-- The end the three changes share, against a radare2 that answers every command and lists
`entries`: the command, the list, and the check of the list with a test that reads each entry
as `verdict` does. -/
theorem listCheck_replying
    (answers : ∀ calls command, ∃ reply, backend calls (cmdCall command) = .ok reply)
    (listing : ∀ calls, backend calls (cmdjCall "dbj") = .ok (.list (entries.map .dict)))
    (command what : String) (a : Int)
    (filled : Value.fills ("R2ConcreteTarget failed to " ++ what ++ " at %x") (.one (.int a)) = true)
    (test : Value → Except Fault Bool) (verdict : List (String × Value) → Except Fault Bool)
    (tested : ∀ e, test (.dict e) = verdict e) (counted : ∀ e, verdict e = .ok true → e ≠ [])
    (shown : Bool → Bool) (calls : List Call) :
    (do
      let _ ← cmd (Probe.replying backend) command
      let listed ← cmdj (Probe.replying backend) "dbj"
      if shown (← liftFault (anyEntry listed test)) then breakpointFault what (.int a)
      else pure .none : Probe Value).run.run calls =
      ((entries.anyM verdict).bind fun found =>
        if shown found then .error (.breakpoint (changeFailure what a)) else .ok .none,
        calls ++ [cmdCall command, cmdjCall "dbj"]) := by
  obtain ⟨reply, answered⟩ := answers calls command
  -- `any` also asks whether the entry itself is true; an entry the test counts is not empty
  have hits : ∀ e, test (.dict e) = .ok true → e ≠ [] := fun e hit =>
    counted e (by rwa [tested] at hit)
  rw [Probe.bind_ok ((cmd_replying backend _ _).trans (by rw [answered])),
    Probe.bind_ok ((cmdj_replying backend _ _).trans (by rw [listing])), anyEntry_dicts _ hits]
  simp only [tested]
  rw [breakpointCheck_run what a _ filled _ shown, List.append_assoc]
  rfl

theorem setBreakpoint_replying
    (answers : ∀ calls command, ∃ reply, backend calls (cmdCall command) = .ok reply)
    (listing : ∀ calls, backend calls (cmdjCall "dbj") = .ok (.list (entries.map .dict))) (a : Int) :
    (setBreakpoint (Probe.replying backend) (.int a)).run.run [] =
      ((entries.anyM (addressVerdict a)).bind fun found =>
        if !found then .error (.breakpoint (changeFailure "set_breakpoint" a)) else .ok .none,
        [cmdCall ("db " ++ hexLiteralOf a), cmdjCall "dbj"]) := by
  unfold setBreakpoint
  rw [liftFault_interpolate_bind rfl, hexLiteral_int_eq, Probe.bind_ok (Probe.liftFault_ok_run _)]
  exact listCheck_replying backend entries answers listing _ "set_breakpoint" a rfl _ _
    (atAddress_dict a) (ne_nil_of_addressVerdict a) (fun found => !found) []

theorem removeBreakpoint_replying
    (answers : ∀ calls command, ∃ reply, backend calls (cmdCall command) = .ok reply)
    (listing : ∀ calls, backend calls (cmdjCall "dbj") = .ok (.list (entries.map .dict))) (a : Int) :
    (removeBreakpoint (Probe.replying backend) (.int a)).run.run [] =
      ((entries.anyM (addressVerdict a)).bind fun found =>
        if found then .error (.breakpoint (changeFailure "remove_breakpoint" a)) else .ok .none,
        [cmdCall ("db-" ++ hexLiteralOf a), cmdjCall "dbj"]) := by
  unfold removeBreakpoint
  rw [liftFault_interpolate_bind rfl, hexLiteral_int_eq, Probe.bind_ok (Probe.liftFault_ok_run _)]
  exact listCheck_replying backend entries answers listing _ "remove_breakpoint" a rfl _ _
    (atAddress_dict a) (ne_nil_of_addressVerdict a) id []

def watchMode (read write : Value) : String :=
  (if read.truthy then "r" else "") ++ (if write.truthy then "w" else "")

theorem watchMode_def (read write : Value) :
    (if read.truthy then "r" else "") ++ (if write.truthy then "w" else "") = watchMode read write :=
  rfl

theorem options_read (read write : Value) :
    Value.lookup "read" [("read", read), ("write", write)] = some read := rfl

theorem options_write (read write : Value) :
    Value.lookup "write" [("read", read), ("write", write)] = some write := rfl

theorem watchMode_eq_empty (read write : Value) :
    watchMode read write = "" ↔ read.truthy = false ∧ write.truthy = false := by
  unfold watchMode
  cases read.truthy <;> cases write.truthy <;> decide

theorem watchMode_ne_empty (read write : Value) (watched : read.truthy = true ∨ write.truthy = true) :
    watchMode read write ≠ "" := by
  simp only [ne_eq, watchMode_eq_empty, not_and_or, Bool.not_eq_false]
  exact watched

theorem watchMode_mem (read write : Value) (watched : read.truthy = true ∨ write.truthy = true) :
    watchMode read write ∈ ["r", "w", "rw"] := by
  revert watched
  unfold watchMode
  cases read.truthy <;> cases write.truthy <;> decide

theorem setWatchpoint_unwatched (a : Int) (read write : Value)
    (neither : read.truthy = false ∧ write.truthy = false) :
    (setWatchpoint (Probe.replying backend) (.int a) [("read", read), ("write", write)]).run.run [] =
      (.error (.breakpoint ("R2ConcreteTarget set_watchpoint invalid watch requested for address " ++
        hexLiteralOf a ++ ". Must specify type of watchpoint.")), []) := by
  have empty : watchMode read write = "" := (watchMode_eq_empty read write).mpr neither
  unfold setWatchpoint
  rw [options_read, options_write, Option.getD_some, Option.getD_some]
  dsimp only
  rw [watchMode_def, empty]
  simp only [beq_self_eq_true, if_true]
  rw [hexLiteral_int_eq, Probe.bind_ok (Probe.liftFault_ok_run _)]
  exact Probe.bind_error (Probe.throw_run _)

theorem setWatchpoint_replying
    (answers : ∀ calls command, ∃ reply, backend calls (cmdCall command) = .ok reply)
    (listing : ∀ calls, backend calls (cmdjCall "dbj") = .ok (.list (entries.map .dict))) (a : Int)
    (read write : Value) (watched : watchMode read write ≠ "") (fits : Value.decimalFits a = true) :
    (setWatchpoint (Probe.replying backend) (.int a) [("read", read), ("write", write)]).run.run [] =
      ((entries.anyM (watchVerdict a)).bind fun found =>
        if !found then .error (.breakpoint (changeFailure "set_breakpoint" a)) else .ok .none,
        [cmdCall ("dbw " ++ Value.intText a ++ " " ++ watchMode read write), cmdjCall "dbj"]) := by
  have nonempty : (watchMode read write == "") = false := by simpa using watched
  unfold setWatchpoint
  rw [options_read, options_write, Option.getD_some, Option.getD_some]
  dsimp only
  rw [watchMode_def, nonempty]
  simp only [Bool.false_eq_true, if_false]
  rw [liftFault_interpolate_bind rfl, Value.renderLimited_int fits,
    Probe.bind_ok (Probe.liftFault_ok_run _)]
  exact listCheck_replying backend entries answers listing _ "set_breakpoint" a rfl _ _
    (hardwareAt_dict a) (ne_nil_of_watchVerdict a) (fun found => !found) []

theorem setWatchpoint_overlong (a : Int) (read write : Value) (watched : watchMode read write ≠ "")
    (tooLong : Value.decimalFits a = false) :
    (setWatchpoint (Probe.replying backend) (.int a) [("read", read), ("write", write)]).run.run [] =
      (.error .decimalTooLong, []) := by
  have nonempty : (watchMode read write == "") = false := by simpa using watched
  have refused : (Value.int a).renderLimited = .error .decimalTooLong := by
    simp [Value.renderLimited, Value.textFits, tooLong]
  unfold setWatchpoint
  rw [options_read, options_write, Option.getD_some, Option.getD_some]
  dsimp only
  rw [watchMode_def, nonempty]
  simp only [Bool.false_eq_true, if_false]
  rw [liftFault_interpolate_bind rfl, refused]
  exact Probe.bind_error (Probe.liftFault_run _)

/-- Setting a breakpoint ends normally exactly when an entry at the address comes before any
entry without one, fails on a missing address when such an entry comes first, and is a
breakpoint fault exactly when the list does not show the address. -/
theorem setBreakpoint_outcome
    (answers : ∀ calls command, ∃ reply, backend calls (cmdCall command) = .ok reply)
    (listing : ∀ calls, backend calls (cmdjCall "dbj") = .ok (.list (entries.map .dict))) (a : Int) :
    let set := (setBreakpoint (Probe.replying backend) (.int a)).run.run []
    set.2 = [cmdCall ("db " ++ hexLiteralOf a), cmdjCall "dbj"] ∧
      (set.1 = .ok .none ↔ ListedFirst a entries) ∧
      (set.1 = .error (.missingKey (.str "addr")) ↔ UnaddressedFirst a entries) ∧
      ((∃ text, set.1 = .error (.breakpoint text)) ↔ Unlisted a entries) := by
  intro set
  simp only [set, setBreakpoint_replying backend entries answers listing a, listedFirst_iff,
    unaddressedFirst_iff, unlisted_iff, ← anyM_eq_ok_true, ← anyM_eq_error, ← anyM_eq_ok_false]
  refine ⟨trivial, ?_⟩
  cases scan : entries.anyM (addressVerdict a) with
  | ok found => cases found <;> simp [Except.bind]
  | error f =>
    obtain rfl := addressScan_error a entries f scan
    simp [Except.bind]

/-- Removing a breakpoint is the mirror image: a breakpoint fault exactly when an entry at the
address comes before any entry without one, and normal exactly when the list does not show
the address. -/
theorem removeBreakpoint_outcome
    (answers : ∀ calls command, ∃ reply, backend calls (cmdCall command) = .ok reply)
    (listing : ∀ calls, backend calls (cmdjCall "dbj") = .ok (.list (entries.map .dict))) (a : Int) :
    let remove := (removeBreakpoint (Probe.replying backend) (.int a)).run.run []
    remove.2 = [cmdCall ("db-" ++ hexLiteralOf a), cmdjCall "dbj"] ∧
      ((∃ text, remove.1 = .error (.breakpoint text)) ↔ ListedFirst a entries) ∧
      (remove.1 = .error (.missingKey (.str "addr")) ↔ UnaddressedFirst a entries) ∧
      (remove.1 = .ok .none ↔ Unlisted a entries) := by
  intro remove
  simp only [remove, removeBreakpoint_replying backend entries answers listing a, listedFirst_iff,
    unaddressedFirst_iff, unlisted_iff, ← anyM_eq_ok_true, ← anyM_eq_error, ← anyM_eq_ok_false]
  refine ⟨trivial, ?_⟩
  cases scan : entries.anyM (addressVerdict a) with
  | ok found => cases found <;> simp [Except.bind]
  | error f =>
    obtain rfl := addressScan_error a entries f scan
    simp [Except.bind]

theorem setBreakpoint_ok_iff_remove_fails
    (answers : ∀ calls command, ∃ reply, backend calls (cmdCall command) = .ok reply)
    (listing : ∀ calls, backend calls (cmdjCall "dbj") = .ok (.list (entries.map .dict))) (a : Int)
    (addressed : ∀ e ∈ entries, hasAddress e = true) :
    ((setBreakpoint (Probe.replying backend) (.int a)).run.run []).1 = .ok .none ↔
      ((removeBreakpoint (Probe.replying backend) (.int a)).run.run []).1 ≠ .ok .none := by
  obtain ⟨found, scan⟩ := addressScan_of_addressed a entries addressed
  rw [setBreakpoint_replying backend entries answers listing a,
    removeBreakpoint_replying backend entries answers listing a, scan]
  cases found <;> simp [Except.bind]

/-- Setting a watchpoint that watches some access ends normally exactly when an entry at the
address with a true `hw` flag comes first, fails on the key the first unreadable entry lacks,
and is a breakpoint fault exactly when the check passes over every entry. -/
theorem setWatchpoint_outcome
    (answers : ∀ calls command, ∃ reply, backend calls (cmdCall command) = .ok reply)
    (listing : ∀ calls, backend calls (cmdjCall "dbj") = .ok (.list (entries.map .dict))) (a : Int)
    (read write : Value) (watched : watchMode read write ≠ "") (fits : Value.decimalFits a = true) :
    let watch :=
      (setWatchpoint (Probe.replying backend) (.int a) [("read", read), ("write", write)]).run.run []
    watch.2 = [cmdCall ("dbw " ++ Value.intText a ++ " " ++ watchMode read write), cmdjCall "dbj"] ∧
      (watch.1 = .ok .none ↔ WatchedFirst a entries) ∧
      (∀ key, watch.1 = .error (.missingKey (.str key)) ↔ UnreadableFirst a entries key) ∧
      ((∃ text, watch.1 = .error (.breakpoint text)) ↔ Unwatched a entries) := by
  intro watch
  simp only [watch, setWatchpoint_replying backend entries answers listing a read write watched fits,
    watchedFirst_iff, unreadableFirst_iff, unwatched_iff, ← anyM_eq_ok_true, ← anyM_eq_error,
    ← anyM_eq_ok_false]
  refine ⟨trivial, ?_⟩
  cases scan : entries.anyM (watchVerdict a) with
  | ok found => cases found <;> simp [Except.bind]
  | error f =>
    obtain ⟨key, rfl⟩ := watchScan_error a entries f scan
    simp [Except.bind]

end Operations

/-- The checks that end the three breakpoint changes at `a`, against a radare2 that answers
every command and lists `entries` as its breakpoints. -/
structure BreakpointChecks (backend : List Call → Call → Except Fault Value)
    (entries : List (List (String × Value))) (a : Int) : Prop where
  /-- Setting sends `db` with the address in hex and reads the list back: it ends normally
  when an entry at `a` comes first, fails on the missing key when an entry without an address
  comes first, and is a breakpoint fault when the list does not show `a`. -/
  set :
    let set := (setBreakpoint (Probe.replying backend) (.int a)).run.run []
    set.2 = [cmdCall ("db " ++ hexLiteralOf a), cmdjCall "dbj"] ∧
      (set.1 = .ok .none ↔ ListedFirst a entries) ∧
      (set.1 = .error (.missingKey (.str "addr")) ↔ UnaddressedFirst a entries) ∧
      ((∃ text, set.1 = .error (.breakpoint text)) ↔ Unlisted a entries)
  /-- Removing sends `db-` with the address in hex, and its outcomes are those of setting with
  normal and faulty swapped. -/
  remove :
    let remove := (removeBreakpoint (Probe.replying backend) (.int a)).run.run []
    remove.2 = [cmdCall ("db-" ++ hexLiteralOf a), cmdjCall "dbj"] ∧
      ((∃ text, remove.1 = .error (.breakpoint text)) ↔ ListedFirst a entries) ∧
      (remove.1 = .error (.missingKey (.str "addr")) ↔ UnaddressedFirst a entries) ∧
      (remove.1 = .ok .none ↔ Unlisted a entries)
  /-- On a list whose entries all carry an address, exactly one of the two ends normally. -/
  complementary : (∀ e ∈ entries, hasAddress e = true) →
    (((setBreakpoint (Probe.replying backend) (.int a)).run.run []).1 = .ok .none ↔
      ((removeBreakpoint (Probe.replying backend) (.int a)).run.run []).1 ≠ .ok .none)
  /-- A watchpoint on no kind of access is refused before any command. -/
  unwatched : ∀ read write : Value, read.truthy = false ∧ write.truthy = false →
    (setWatchpoint (Probe.replying backend) (.int a) [("read", read), ("write", write)]).run.run [] =
      (.error (.breakpoint ("R2ConcreteTarget set_watchpoint invalid watch requested for address " ++
        hexLiteralOf a ++ ". Must specify type of watchpoint.")), [])
  /-- A watchpoint on some access sends `dbw` with the address in decimal and the mode, and
  reads the `hw` flag only of entries at `a`; where every entry carries both keys, it ends
  normally exactly when some entry at `a` has a true flag. An address too long for decimal
  text stops it before any command. -/
  watched : ∀ read write : Value, read.truthy = true ∨ write.truthy = true →
    let watch :=
      (setWatchpoint (Probe.replying backend) (.int a) [("read", read), ("write", write)]).run.run []
    watchMode read write ∈ ["r", "w", "rw"] ∧
      (Value.decimalFits a = false → watch = (.error .decimalTooLong, [])) ∧
      (Value.decimalFits a = true →
        watch.2 = [cmdCall ("dbw " ++ Value.intText a ++ " " ++ watchMode read write),
          cmdjCall "dbj"] ∧
        (watch.1 = .ok .none ↔ WatchedFirst a entries) ∧
        (∀ key, watch.1 = .error (.missingKey (.str key)) ↔ UnreadableFirst a entries key) ∧
        ((∃ text, watch.1 = .error (.breakpoint text)) ↔ Unwatched a entries) ∧
        ((∀ e ∈ entries, hasAddress e = true ∧ hasHardwareFlag e = true) →
          (watch.1 = .ok .none ↔ ∃ e ∈ entries, isAt a e = true ∧ hardware e = true)))

theorem breakpoint_checks_scan_in_order (backend : List Call → Call → Except Fault Value)
    (entries : List (List (String × Value)))
    (answers : ∀ calls command, ∃ reply, backend calls (cmdCall command) = .ok reply)
    (listing : ∀ calls, backend calls (cmdjCall "dbj") = .ok (.list (entries.map .dict))) (a : Int) :
    BreakpointChecks backend entries a where
  set := setBreakpoint_outcome backend entries answers listing a
  remove := removeBreakpoint_outcome backend entries answers listing a
  complementary := setBreakpoint_ok_iff_remove_fails backend entries answers listing a
  unwatched read write := setWatchpoint_unwatched backend a read write
  watched read write reading := by
    have nonempty := watchMode_ne_empty read write reading
    refine ⟨watchMode_mem read write reading, setWatchpoint_overlong backend a read write nonempty,
      fun fits => ?_⟩
    obtain ⟨calls, found, unreadable, unwatched⟩ :=
      setWatchpoint_outcome backend entries answers listing a read write nonempty fits
    refine ⟨calls, found, unreadable, unwatched, fun flagged => ?_⟩
    rw [found]
    exact watchedFirst_iff_of_flagged a entries flagged

theorem breakpoint_checks_on_sample :
    let backend : List Call → Call → Except Fault Value := fun _ c =>
      if c.path = "cmdj" then .ok (.list ([[("addr", .int 4096), ("hw", .bool true)]].map .dict))
      else .ok (.str "")
    (∀ calls command, ∃ reply, backend calls (cmdCall command) = .ok reply) ∧
    (∀ calls, backend calls (cmdjCall "dbj") =
      .ok (.list ([[("addr", .int 4096), ("hw", .bool true)]].map .dict))) ∧
    BreakpointChecks backend [[("addr", .int 4096), ("hw", .bool true)]] 4096 :=
  ⟨fun _ _ => ⟨_, rfl⟩, fun _ => rfl,
    breakpoint_checks_scan_in_order _ _ (fun _ _ => ⟨_, rfl⟩) (fun _ => rfl) 4096⟩

end Radare

end DebugBridge
