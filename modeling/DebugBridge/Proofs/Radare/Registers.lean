import DebugBridge.Proofs.Radare.Session
import DebugBridge.Proofs.Gdb.Faults
/-!
# Registers through radare2, whatever it replies

Here radare2 is any function of the calls made so far (`Probe.replying`), so the statements
hold for every answer it could give. A read resolves a role name with `drn`, fetches the
table with `drtj all` and looks the name up; a name the table lacks is read from its `l` and
`h` halves when it starts with `xmm` (`ReadsTable`). A write is refused unless the name is a
key of the first table; after its one `dr` command, success is decided by a second read,
whose own failures come out of the write unchanged.
-/

namespace DebugBridge

set_option autoImplicit false

namespace Probe

/-- The link to a backend whose reply to a call may depend on the calls made before it, as
the state of a debugger does. -/
def replying (backend : List Call → Call → Except Fault Value) : Link Probe where
  send c := ExceptT.mk fun calls => (backend calls c, calls ++ [c])
  print _ := pure ()

theorem replying_send_run (backend : List Call → Call → Except Fault Value) (c : Call)
    (calls : List Call) :
    ((replying backend).send c).run.run calls = (backend calls c, calls ++ [c]) := rfl

end Probe

namespace Radare

def cmdCall (command : String) : Call := { path := "cmd", args := [.str command] }

def cmdjCall (command : String) : Call := { path := "cmdj", args := [.str command] }

def resolveCalls (r : String) : List Call :=
  if r ∈ R2Layout.roles then [cmdCall ("drn " ++ r)] else []

/-- The register `r` stands for when radare2 answers `answer` to `drn r`: the answer without
its surrounding blanks for a role name, `r` itself for any other. -/
def resolvedName (r answer : String) : String :=
  if r ∈ R2Layout.roles then Text.trimBlanks answer else r

variable (backend : List Call → Call → Except Fault Value)

theorem resolve_replying (r answer : String) (calls : List Call)
    (named : r ∈ R2Layout.roles → backend calls (cmdCall ("drn " ++ r)) = .ok (.str answer)) :
    (resolve (Probe.replying backend) (.str r)).run.run calls =
      (.ok (.str (resolvedName r answer)), calls ++ resolveCalls r) := by
  unfold resolve
  simp only [R2Session.roles_any]
  by_cases role : r ∈ R2Layout.roles
  · simp only [role, decide_true, if_true, Value.render_str]
    rw [Probe.bind_ok (by rw [← named role]; rfl)]
    simp [resolvedName, resolveCalls, role]
    rfl
  · simp only [role, decide_false]
    simp [resolvedName, resolveCalls, role]
    rfl

theorem contains_dict_str (D : List (String × Value)) (n : String) :
    (Value.dict D).contains (.str n) = .ok (Value.lookup n D).isSome := rfl

theorem index_dict_str (D : List (String × Value)) (n : String) :
    (Value.dict D).index (.str n) =
      (match Value.lookup n D with
      | some v => .ok v
      | none => .error (.missingKey (.str n))) := by
  simp only [Value.index, Value.hashable, Value.unhashablePart, Value.entryAt]
  rfl

theorem joinHalves_dict (D : List (String × Value)) (n : String) :
    joinHalves (.dict D) (.str n) =
      (match Value.lookup (n ++ "l") D with
      | none => .ok none
      | some low => do
        let shifted ← low.shiftLeft (.int 64)
        match Value.lookup (n ++ "h") D with
        | none => .ok none
        | some high => some <$> shifted.add high) := by
  unfold joinHalves
  rw [show (Value.str n).add (.str "l") = .ok (.str (n ++ "l")) from rfl,
    show (Value.str n).add (.str "h") = .ok (.str (n ++ "h")) from rfl]
  simp only [bind, Except.bind, index_dict_str]
  cases Value.lookup (n ++ "l") D with
  | none => rfl
  | some low =>
    dsimp only
    cases low.shiftLeft (.int 64) with
    | error f => rfl
    | ok shifted => cases Value.lookup (n ++ "h") D <;> rfl

def readFromTable (registers : Value) (n : String) : Except Fault Value := do
  if ← registers.contains (.str n) then return ← registers.index (.str n)
  if ← (Value.str n).startsWith "xmm" then
    if let some v ← joinHalves registers (.str n) then return v
  throw (.register ("Unhandled register read of " ++ n))

theorem readResolved_table (n : String) (calls : List Call) {registers : Value}
    (table : backend calls (cmdjCall "drtj all") = .ok registers) :
    (readResolved (Probe.replying backend) (.str n)).run.run calls =
      (readFromTable registers n, calls ++ [cmdjCall "drtj all"]) := by
  have fetched : (do
      let _ ← liftFault (Value.interpolate "R2ConcreteTarget read_register at %s " (.one (.str n)))
      cmdj (Probe.replying backend) "drtj all" : Probe Value).run.run calls =
      (.ok registers, calls ++ [cmdjCall "drtj all"]) := by
    rw [liftFault_interpolate_bind rfl, ← table]
    rfl
  unfold readResolved rescue readFromTable
  rw [Probe.bind_ok (Probe.tryCatch_ok fetched)]
  -- the rest only looks at values: each outcome of each look ends the same on both sides
  cases registers.contains (.str n) with
  | error f => rfl
  | ok listed =>
    cases listed with
    | true => cases registers.index (.str n) <;> rfl
    | false =>
      rw [show (Value.str n).startsWith "xmm" = .ok ("xmm".toList.isPrefixOf n.toList) from rfl]
      cases "xmm".toList.isPrefixOf n.toList with
      | false => rfl
      | true =>
        cases joinHalves registers (.str n) with
        | error f => rfl
        | ok halves => cases halves <;> rfl

theorem readResolved_failed (n : String) (calls : List Call) {e : Fault}
    (failed : backend calls (cmdjCall "drtj all") = .error e) :
    (readResolved (Probe.replying backend) (.str n)).run.run calls =
      (.error (.register ("R2ConcreteTarget can't read register " ++ n ++ " exception " ++ e.message)),
        calls ++ [cmdjCall "drtj all"]) := by
  have fetched : (do
      let _ ← liftFault (Value.interpolate "R2ConcreteTarget read_register at %s " (.one (.str n)))
      cmdj (Probe.replying backend) "drtj all" : Probe Value).run.run calls =
      (.error e, calls ++ [cmdjCall "drtj all"]) := by
    rw [liftFault_interpolate_bind rfl, ← failed]
    rfl
  unfold readResolved rescue
  rw [Probe.bind_error (Probe.tryCatch_error fetched)]
  rfl

/-- How reading register `n` from the register table `D` ends. The entry under `n` comes
first. A vector register (`xmm…`) the table lacks is its `l` half shifted up by 64 plus its
`h` half, which for halves below `2^64` is the 128-bit number with the `l` half on top. Any
other name is an unhandled register. Only a missing half falls through to that fault: a half
that is no integer fails the shift with the fault of `<<`, which is not caught. -/
structure ReadsTable (D : List (String × Value)) (n : String) (outcome : Except Fault Value) :
    Prop where
  exact : ∀ v, Value.lookup n D = some v → outcome = .ok v
  halves : Value.lookup n D = none → "xmm".toList.isPrefixOf n.toList = true →
    ∀ low high, Value.lookup (n ++ "l") D = some low → Value.lookup (n ++ "h") D = some high →
      outcome = (do let shifted ← low.shiftLeft (.int 64); shifted.add high)
  wide : Value.lookup n D = none → "xmm".toList.isPrefixOf n.toList = true →
    ∀ low high : Nat, low < 2 ^ 64 → high < 2 ^ 64 →
      Value.lookup (n ++ "l") D = some (.int low) → Value.lookup (n ++ "h") D = some (.int high) →
      outcome = .ok (.int (low * 2 ^ 64 + high : Nat)) ∧ low * 2 ^ 64 + high < 2 ^ 128 ∧
        (low * 2 ^ 64 + high) / 2 ^ 64 = low ∧ (low * 2 ^ 64 + high) % 2 ^ 64 = high
  unnamed : Value.lookup n D = none → "xmm".toList.isPrefixOf n.toList = false →
    outcome = .error (.register ("Unhandled register read of " ++ n))
  noLowHalf : Value.lookup n D = none → Value.lookup (n ++ "l") D = none →
    outcome = .error (.register ("Unhandled register read of " ++ n))
  noHighHalf : Value.lookup n D = none → ∀ low, Value.lookup (n ++ "l") D = some low →
    low.asInt?.isSome → Value.lookup (n ++ "h") D = none →
    outcome = .error (.register ("Unhandled register read of " ++ n))
  shiftFails : Value.lookup n D = none → "xmm".toList.isPrefixOf n.toList = true →
    ∀ low, Value.lookup (n ++ "l") D = some low → low.asInt? = none →
    outcome = .error (.badOperands "<<" low.kindName "int")

theorem readFromTable_listed {D : List (String × Value)} {n : String} {v : Value}
    (listed : Value.lookup n D = some v) : readFromTable (.dict D) n = .ok v := by
  simp [readFromTable, contains_dict_str, index_dict_str, listed, bind, Except.bind]

theorem readFromTable_unlisted {D : List (String × Value)} {n : String}
    (unlisted : Value.lookup n D = none) :
    readFromTable (.dict D) n =
      if "xmm".toList.isPrefixOf n.toList then
        match Value.lookup (n ++ "l") D with
        | none => .error (.register ("Unhandled register read of " ++ n))
        | some low => do
          let shifted ← low.shiftLeft (.int 64)
          match Value.lookup (n ++ "h") D with
          | none => .error (.register ("Unhandled register read of " ++ n))
          | some high => shifted.add high
      else .error (.register ("Unhandled register read of " ++ n)) := by
  simp only [readFromTable, contains_dict_str, unlisted, Option.isSome_none, joinHalves_dict]
  rw [show (Value.str n).startsWith "xmm" = .ok ("xmm".toList.isPrefixOf n.toList) from rfl]
  cases "xmm".toList.isPrefixOf n.toList with
  | false => rfl
  | true =>
    cases Value.lookup (n ++ "l") D with
    | none => rfl
    | some low =>
      dsimp only
      cases low.shiftLeft (.int 64) with
      | error f => rfl
      | ok shifted =>
        cases Value.lookup (n ++ "h") D with
        | none => rfl
        | some high =>
          dsimp only [bind, Except.bind]
          cases shifted.add high <;> rfl

theorem shift_add_halves (low high : Nat) :
    (do let shifted ← (Value.int low).shiftLeft (.int 64); shifted.add (.int high) :
      Except Fault Value) = .ok (.int (low * 2 ^ 64 + high : Nat)) := by
  simp [Value.shiftLeft, Value.asInt?, bind, Except.bind, Value.add, Value.numericSum]

theorem readsTable (D : List (String × Value)) (n : String) :
    ReadsTable D n (readFromTable (.dict D) n) where
  exact _ listed := readFromTable_listed listed
  halves unlisted prefixed low high lowHalf highHalf := by
    rw [readFromTable_unlisted unlisted, if_pos prefixed, lowHalf]
    dsimp only
    rw [highHalf]
  wide unlisted prefixed low high lowSmall highSmall lowHalf highHalf := by
    refine ⟨?_, by omega, by omega, by omega⟩
    rw [readFromTable_unlisted unlisted, if_pos prefixed, lowHalf]
    dsimp only
    rw [highHalf]
    exact shift_add_halves low high
  unnamed unlisted plain := by
    rw [readFromTable_unlisted unlisted, plain]
    rfl
  noLowHalf unlisted noLow := by
    rw [readFromTable_unlisted unlisted, noLow]
    split <;> rfl
  noHighHalf unlisted low lowHalf integer noHigh := by
    obtain ⟨l, isInt⟩ := Option.isSome_iff_exists.mp integer
    rw [readFromTable_unlisted unlisted, lowHalf]
    split
    · have shifted : low.shiftLeft (.int 64) = .ok (.int (l * Int.pow 2 64)) := by
        simp only [Value.shiftLeft, isInt]
        rfl
      simp [shifted, noHigh, bind, Except.bind]
    · rfl
  shiftFails unlisted prefixed low lowHalf notInt := by
    rw [readFromTable_unlisted unlisted, if_pos prefixed, lowHalf]
    simp [Value.shiftLeft, notInt, bind, Except.bind]
    rfl


theorem readRegister_replying (r answer : String) (calls : List Call)
    (named : r ∈ R2Layout.roles → backend calls (cmdCall ("drn " ++ r)) = .ok (.str answer)) :
    (readRegister (Probe.replying backend) (.str r)).run.run calls =
      (readResolved (Probe.replying backend) (.str (resolvedName r answer))).run.run
        (calls ++ resolveCalls r) := by
  unfold readRegister
  rw [Probe.bind_ok (resolve_replying backend r answer calls named)]

/-- A register read through radare2, whatever radare2 answers: a role name is resolved with
`drn`, the register table is fetched once with `drtj all`, and the value is read from the
table as `ReadsTable` says; a failure to fetch the table is a register fault. -/
theorem readRegister_resolves_then_reads_table (r answer : String)
    (named : r ∈ R2Layout.roles → backend [] (cmdCall ("drn " ++ r)) = .ok (.str answer)) :
    let n := resolvedName r answer
    ∃ outcome, (readRegister (Probe.replying backend) (.str r)).run.run [] =
        (outcome, resolveCalls r ++ [cmdjCall "drtj all"]) ∧
      (∀ D, backend (resolveCalls r) (cmdjCall "drtj all") = .ok (.dict D) →
        ReadsTable D n outcome) ∧
      (∀ e, backend (resolveCalls r) (cmdjCall "drtj all") = .error e →
        outcome = .error (.register ("R2ConcreteTarget can't read register " ++ n ++
          " exception " ++ e.message))) := by
  intro n
  rw [readRegister_replying backend r answer [] named, List.nil_append]
  cases reply : backend (resolveCalls r) (cmdjCall "drtj all") with
  | ok registers =>
    refine ⟨readFromTable registers n, readResolved_table backend n _ reply, ?_, ?_⟩
    · intro D table
      cases table
      exact readsTable D n
    · intro e failed
      cases failed
  | error e =>
    refine ⟨_, readResolved_failed backend n _ reply, ?_, ?_⟩
    · intro D table
      cases table
    · intro e' failed
      cases failed
      rfl

theorem readRegister_resolves_pc_on_sample :
    let backend : List Call → Call → Except Fault Value := fun _ c =>
      if c.path = "cmd" then .ok (.str "rip\n")
      else .ok (.dict [("rip", .int 4096), ("xmm0l", .int 1), ("xmm0h", .int 2)])
    ("pc" ∈ R2Layout.roles → backend [] (cmdCall ("drn " ++ "pc")) = .ok (.str "rip\n")) ∧
    let n := resolvedName "pc" "rip\n"
    ∃ outcome, (readRegister (Probe.replying backend) (.str "pc")).run.run [] =
        (outcome, resolveCalls "pc" ++ [cmdjCall "drtj all"]) ∧
      (∀ D, backend (resolveCalls "pc") (cmdjCall "drtj all") = .ok (.dict D) →
        ReadsTable D n outcome) ∧
      (∀ e, backend (resolveCalls "pc") (cmdjCall "drtj all") = .error e →
        outcome = .error (.register ("R2ConcreteTarget can't read register " ++ n ++
          " exception " ++ e.message))) :=
  ⟨fun _ => rfl, readRegister_resolves_then_reads_table _ "pc" "rip\n" fun _ => rfl⟩

theorem cmd_replying (command : String) (calls : List Call) :
    (cmd (Probe.replying backend) command).run.run calls =
      (backend calls (cmdCall command), calls ++ [cmdCall command]) := rfl

theorem cmdj_replying (command : String) (calls : List Call) :
    (cmdj (Probe.replying backend) command).run.run calls =
      (backend calls (cmdjCall command), calls ++ [cmdjCall command]) := rfl

def hexLiteralOf (n : Int) : String :=
  (if n < 0 then "-0x" else "0x") ++ String.ofList (Nat.toDigits 16 n.natAbs)

theorem hexLiteral_int_eq (n : Int) : (Value.int n).hexLiteral = .ok (hexLiteralOf n) := rfl

def writeCall (n : String) (v : Int) : Call := cmdCall ("dr " ++ n ++ "=" ++ Value.intText v)

def mismatchFault (n : String) (v : Int) : Fault :=
  .register ("R2ConcreteTarget write_register failed to correctly set register " ++ n ++ "=" ++
    hexLiteralOf v)

/-- A write once the register table `D` is fetched: a name the table lacks is refused, a value
too long for decimal text fails, and any other write is sent and read back. -/
theorem writeRegister_table (r answer : String) (v : Int) {D : List (String × Value)}
    (named : r ∈ R2Layout.roles → backend [] (cmdCall ("drn " ++ r)) = .ok (.str answer))
    (first : backend (resolveCalls r) (cmdjCall "drtj all") = .ok (.dict D)) :
    let n := resolvedName r answer
    let checked := resolveCalls r ++ [cmdjCall "drtj all"]
    let result := (writeRegister (Probe.replying backend) (.str r) (.int v)).run.run []
    (Value.lookup n D = none →
      result = (.error (.register ("R2ConcreteTarget write_register unhandled reg name of " ++ n)),
        checked)) ∧
    ((Value.lookup n D).isSome → Value.decimalFits v = false →
      result = (.error .decimalTooLong, checked)) ∧
    ((Value.lookup n D).isSome → Value.decimalFits v = true →
      ∀ reply, backend checked (writeCall n v) = .ok reply →
      ∀ back after, (readRegister (Probe.replying backend) (.str n)).run.run
          (checked ++ [writeCall n v]) = (back, after) →
        result = (back.bind fun w => if Value.same w (.int v) then .ok .none
          else .error (mismatchFault n v), after)) := by
  intro n checked result
  dsimp only [result, n, checked]
  unfold writeRegister
  rw [Probe.bind_ok (resolve_replying backend r answer [] named), List.nil_append,
    Probe.bind_ok (by rw [cmdj_replying, first]), contains_dict_str,
    Probe.bind_ok (Probe.liftFault_ok_run _)]
  -- the table decides: only a name it lists gets as far as the decimal text of `v`
  cases listed : (Value.lookup (resolvedName r answer) D).isSome with
  | false =>
    refine ⟨fun _ => ?_, nofun, nofun⟩
    simp only [Bool.not_false, if_true]
    rw [Value.renderLimited_str, Probe.bind_ok (Probe.liftFault_ok_run _),
      Probe.bind_error (Probe.throw_run _)]
  | true =>
    simp only [Bool.not_true, Bool.false_eq_true, if_false]
    rw [Value.renderLimited_str, Probe.bind_ok (Probe.liftFault_ok_run _), Value.hexDigits_int,
      Probe.bind_ok (Probe.liftFault_ok_run _)]
    refine ⟨fun unlisted => by simp [unlisted] at listed, fun _ tooLong => ?_,
      fun _ fits reply wrote back after readBack => ?_⟩
    · have refused : (Value.int v).renderLimited = .error .decimalTooLong := by
        simp [Value.renderLimited, Value.textFits, tooLong]
      rw [refused, Probe.bind_error (Probe.liftFault_run _)]
    rw [Value.renderLimited_int fits, Probe.bind_ok (Probe.liftFault_ok_run _),
      Probe.bind_ok ((cmd_replying backend _ _).trans (by rw [← wrote]; rfl))]
    unfold writeCall at readBack
    cases back with
    | error e => rw [Probe.bind_error readBack]; rfl
    | ok w =>
      rw [Probe.bind_ok readBack]
      cases same : Value.same w (.int v)
      · simp only [Bool.not_false, if_true]
        rw [hexLiteral_int_eq, Probe.bind_ok (Probe.liftFault_ok_run _),
          Probe.bind_error (Probe.throw_run _)]
        simp only [Except.bind, same, Bool.false_eq_true, if_false, mismatchFault]
      · simp only [Bool.not_true, Bool.false_eq_true, if_false, Except.bind, same, if_true]
        rfl

theorem readResolved_calls (n : String) (calls : List Call) :
    ((readResolved (Probe.replying backend) (.str n)).run.run calls).2 =
      calls ++ [cmdjCall "drtj all"] := by
  cases reply : backend calls (cmdjCall "drtj all") with
  | ok registers => rw [readResolved_table backend n calls reply]
  | error e => rw [readResolved_failed backend n calls reply]

/-- A register write through radare2, against a backend whose commands all answer: only a
register listed in the table fetched first is ever written, by one `dr n=v` command, and the
write ends normally exactly when reading the register back gives a value equal to `v`. A
read-back that gives another value is a register fault; a read-back that fails passes its own
fault on. -/
theorem writeRegister_writes_only_listed_registers
    (quiet : ∀ calls c, ∃ reply, backend calls c = .ok reply)
    (r answer answer' : String) (v : Int) (D : List (String × Value))
    (named : r ∈ R2Layout.roles → backend [] (cmdCall ("drn " ++ r)) = .ok (.str answer))
    (first : backend (resolveCalls r) (cmdjCall "drtj all") = .ok (.dict D))
    (renamed : resolvedName r answer ∈ R2Layout.roles →
      backend (resolveCalls r ++ [cmdjCall "drtj all", writeCall (resolvedName r answer) v])
        (cmdCall ("drn " ++ resolvedName r answer)) = .ok (.str answer')) :
    let n := resolvedName r answer
    let checked := resolveCalls r ++ [cmdjCall "drtj all"]
    let result := (writeRegister (Probe.replying backend) (.str r) (.int v)).run.run []
    let back :=
      ((readRegister (Probe.replying backend) (.str n)).run.run (checked ++ [writeCall n v])).1
    (Value.lookup n D = none →
      result = (.error (.register ("R2ConcreteTarget write_register unhandled reg name of " ++ n)),
        checked)) ∧
    ((Value.lookup n D).isSome → Value.decimalFits v = false →
      result = (.error .decimalTooLong, checked)) ∧
    ((Value.lookup n D).isSome → Value.decimalFits v = true →
      result.2 = checked ++ writeCall n v :: (resolveCalls n ++ [cmdjCall "drtj all"]) ∧
      (result.1 = .ok .none ↔ ∃ w, back = .ok w ∧ Value.same w (.int v) = true) ∧
      (∀ w, back = .ok w → Value.same w (.int v) = false → result.1 = .error (mismatchFault n v)) ∧
      (∀ e, back = .error e → result.1 = .error e)) := by
  intro n checked result back
  obtain ⟨unlisted, tooLong, written⟩ := writeRegister_table backend r answer v named first
  refine ⟨unlisted, tooLong, fun listed fits => ?_⟩
  obtain ⟨reply, wrote⟩ := quiet checked (writeCall n v)
  -- the read-back resolves `n` again, then fetches a fresh table
  have reread : (readRegister (Probe.replying backend) (.str n)).run.run (checked ++ [writeCall n v]) =
      (back, checked ++ writeCall n v :: (resolveCalls n ++ [cmdjCall "drtj all"])) := by
    refine Prod.ext rfl ?_
    have history : checked ++ [writeCall n v] =
        resolveCalls r ++ [cmdjCall "drtj all", writeCall n v] := by
      simp [checked, n]
    rw [history, readRegister_replying backend n answer' _ renamed, readResolved_calls]
    simp [checked, n]
  have ran : result = (back.bind fun w => if Value.same w (.int v) then .ok .none
      else .error (mismatchFault n v),
      checked ++ writeCall n v :: (resolveCalls n ++ [cmdjCall "drtj all"])) :=
    written listed fits reply wrote back _ reread
  refine ⟨by rw [ran], ?_, ?_, ?_⟩
  · rw [ran]
    cases back with
    | error e => simp [Except.bind]
    | ok w => cases same : Value.same w (.int v) <;> simp [Except.bind, same]
  · intro w readBack differs
    rw [ran, readBack]
    simp [Except.bind, differs]
  · intro e readBack
    rw [ran, readBack]
    rfl

theorem writeRegister_sets_pc_on_sample :
    let backend : List Call → Call → Except Fault Value := fun calls c =>
      if c.path = "cmd" then .ok (.str "rip\n")
      else if calls.length ≤ 2 then .ok (.dict [("rip", .int 0)])
      else .ok (.dict [("rip", .int 4096)])
    (∀ calls c, ∃ reply, backend calls c = .ok reply) ∧
    ("pc" ∈ R2Layout.roles → backend [] (cmdCall ("drn " ++ "pc")) = .ok (.str "rip\n")) ∧
    backend (resolveCalls "pc") (cmdjCall "drtj all") = .ok (.dict [("rip", .int 0)]) ∧
    (resolvedName "pc" "rip\n" ∈ R2Layout.roles →
      backend (resolveCalls "pc" ++ [cmdjCall "drtj all", writeCall (resolvedName "pc" "rip\n") 4096])
        (cmdCall ("drn " ++ resolvedName "pc" "rip\n")) = .ok (.str "rip\n")) ∧
    let n := resolvedName "pc" "rip\n"
    let checked := resolveCalls "pc" ++ [cmdjCall "drtj all"]
    let result := (writeRegister (Probe.replying backend) (.str "pc") (.int 4096)).run.run []
    let back :=
      ((readRegister (Probe.replying backend) (.str n)).run.run (checked ++ [writeCall n 4096])).1
    (Value.lookup n [("rip", .int 0)] = none →
      result = (.error (.register ("R2ConcreteTarget write_register unhandled reg name of " ++ n)),
        checked)) ∧
    ((Value.lookup n [("rip", .int 0)]).isSome → Value.decimalFits 4096 = false →
      result = (.error .decimalTooLong, checked)) ∧
    ((Value.lookup n [("rip", .int 0)]).isSome → Value.decimalFits 4096 = true →
      result.2 = checked ++ writeCall n 4096 :: (resolveCalls n ++ [cmdjCall "drtj all"]) ∧
      (result.1 = .ok .none ↔ ∃ w, back = .ok w ∧ Value.same w (.int 4096) = true) ∧
      (∀ w, back = .ok w → Value.same w (.int 4096) = false →
        result.1 = .error (mismatchFault n 4096)) ∧
      (∀ e, back = .error e → result.1 = .error e)) := by
  intro backend
  have quiet : ∀ calls c, ∃ reply, backend calls c = .ok reply := by
    intro calls c
    simp only [backend]
    split
    · exact ⟨_, rfl⟩
    · split <;> exact ⟨_, rfl⟩
  exact ⟨quiet, fun _ => rfl, rfl, fun _ => rfl,
    writeRegister_writes_only_listed_registers backend quiet "pc" "rip\n" "rip\n" 4096
      [("rip", .int 0)] (fun _ => rfl) rfl (fun _ => rfl)⟩

end Radare

end DebugBridge
