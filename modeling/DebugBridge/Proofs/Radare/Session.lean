import DebugBridge.Radare
import DebugBridge.Proofs.Machine
import DebugBridge.Proofs.Stepping
import DebugBridge.Proofs.Text.ReadBack
import DebugBridge.Proofs.Text.Base64Decode
import Mathlib.Data.List.TakeDrop
/-!
# A radare2 session that keeps its process faithfully

The model behind the radare2 adapter: a session over a stopped process that reads the
adapter's commands as radare2 does (`command` for text output, `query` for data; `dc` runs
any function `program` of the machine). Addresses are read in base 16, counts and register
values in base 10. What debugging leaves as it is, the register table, the roles' registers
and the memory map, is an `R2Layout`, which carries the facts of a real profile: no name
holds an '=' or a blank, and a role names a listed register. Each operation of the adapter
gets its run against the session here.
-/

namespace DebugBridge

set_option autoImplicit false

def R2Layout.roles : List String := ["pc", "sp", "bp"]

/-- What a radare2 session shows of its process that debugging leaves as it is. -/
structure R2Layout where
  registers : List String
  roleOf : String → String
  mapLine : Int → String
  registers_plain : ∀ name ∈ registers, ∀ c ∈ name.toList, c ≠ '=' ∧ Text.isBlank c = false
  roleOf_listed : ∀ role ∈ R2Layout.roles, roleOf role ∈ registers
  roleOf_stable :
    ∀ role ∈ R2Layout.roles, roleOf role ∈ R2Layout.roles → roleOf (roleOf role) = roleOf role

namespace R2Layout

variable (layout : R2Layout)

def resolve (name : String) : String := if name ∈ roles then layout.roleOf name else name

theorem resolve_resolve (name : String) : layout.resolve (layout.resolve name) = layout.resolve name := by
  unfold resolve
  by_cases role : name ∈ roles
  · rw [if_pos role]
    by_cases again : layout.roleOf name ∈ roles
    · rw [if_pos again, layout.roleOf_stable name role again]
    · rw [if_neg again]
  · rw [if_neg role, if_neg role]

end R2Layout

/-- A radare2 session over a stopped process: the process, and the addresses of its
breakpoints in the order the breakpoint list shows them. -/
structure R2Session where
  machine : Machine
  breakpoints : List Int

namespace R2Session

/-- A breakpoint list with `address` added at its end, unless it is there already. -/
def withBreakpoint (breakpoints : List Int) (address : Int) : List Int :=
  if address ∈ breakpoints then breakpoints else breakpoints ++ [address]

def splitAt (text : List Char) : Option (List Char × List Char) :=
  match text.span (· != ' ') with
  | (left, ' ' :: '@' :: ' ' :: right) => some (left, right)
  | _ => none

def address? (text : List Char) : Option Int := Text.readNumeral 16 (String.ofList text)

def registerTable (layout : R2Layout) (session : R2Session) : Value :=
  .dict (layout.registers.map fun name => (name, .int (session.machine.registers name)))

def breakpointList (session : R2Session) : Value :=
  .list (session.breakpoints.map fun address => .dict [("addr", .int address)])

/-- The text output of a command, and the session after it. Text it cannot read prints
nothing and changes nothing. -/
def command (layout : R2Layout) (program : Machine → Machine) (text : List Char)
    (session : R2Session) : Value × R2Session :=
  match text with
  | 'd' :: 'm' :: '.' :: '@' :: at_ =>
    match address? at_ with
    | some a => (.str (layout.mapLine a), session)
    | none => (.str "", session)
  | 'w' :: '6' :: 'd' :: ' ' :: args =>
    match splitAt args with
    | some (payload, at_) =>
      match Text.base64Decode payload, address? at_ with
      | some bytes, some a =>
        (.str "", { session with machine := session.machine.writeBytes a bytes })
      | _, _ => (.str "", session)
    | none => (.str "", session)
  | 'd' :: 'r' :: 'n' :: ' ' :: role =>
    let role := String.ofList role
    (.str (if role ∈ R2Layout.roles then layout.roleOf role ++ "\n" else ""), session)
  | 'd' :: 'r' :: ' ' :: assignment =>
    match assignment.span (· != '=') with
    | (name, '=' :: value) =>
      match Text.readNumeral 10 (String.ofList value) with
      | some v =>
        if String.ofList name ∈ layout.registers then
          (.str "", { session with machine := session.machine.setRegister (String.ofList name) v })
        else (.str "", session)
      | none => (.str "", session)
    | _ => (.str "", session)
  | 'd' :: 'b' :: ' ' :: at_ =>
    match address? at_ with
    | some a => (.str "", { session with breakpoints := withBreakpoint session.breakpoints a })
    | none => (.str "", session)
  | 'd' :: 'b' :: '-' :: at_ =>
    match address? at_ with
    | some a => (.str "", { session with breakpoints := session.breakpoints.erase a })
    | none => (.str "", session)
  | ['d', 'c'] => (.str "", { session with machine := program session.machine })
  | _ => (.str "", session)

def query (layout : R2Layout) (text : List Char) (session : R2Session) : Value :=
  match text with
  | ['d', 'r', 't', 'j', ' ', 'a', 'l', 'l'] => registerTable layout session
  | 'p' :: 'x' :: 'j' :: ' ' :: args =>
    match splitAt args with
    | some (count, at_) =>
      match Text.readNumeral 10 (String.ofList count), address? at_ with
      | some n, some a => .list ((session.machine.bytesAt a n.toNat).map fun b => .int b.toNat)
      | _, _ => .none
    | none => .none
  | ['d', 'b', 'j'] => breakpointList session
  | _ => .none

def answer (layout : R2Layout) (program : Machine → Machine) (call : Call) (session : R2Session) :
    Except Fault (Value × R2Session) :=
  match call.path, call.args with
  | "cmd", [.str text] => .ok (command layout program text.toList session)
  | "cmdj", [.str text] => .ok (query layout text.toList session, session)
  | path, _ => .error (.raised ("the session cannot answer " ++ path))

def link (layout : R2Layout) (program : Machine → Machine) : Link (Run R2Session) where
  send call := fun session => answer layout program call session
  print _ := pure ()

theorem span_append_stop (stop : Char) {left : List Char} (right : List Char)
    (none : ∀ c ∈ left, c ≠ stop) : (left ++ stop :: right).span (· != stop) = (left, stop :: right) := by
  have before : ∀ c ∈ left, (c != stop) = true := by
    intro c mem
    simpa using none c mem
  rw [List.span_eq_takeWhile_dropWhile, List.takeWhile_append_of_pos before,
    List.dropWhile_append_of_pos before]
  simp

theorem splitAt_append {left : List Char} (right : List Char) (noSpace : ∀ c ∈ left, c ≠ ' ') :
    splitAt (left ++ ' ' :: '@' :: ' ' :: right) = some (left, right) := by
  unfold splitAt
  rw [span_append_stop ' ' _ noSpace]
  rfl

theorem address?_toList {at_ : String} {a : Int} (address : Text.readNumeral 16 at_ = some a) :
    address? at_.toList = some a := by
  rw [address?, String.ofList_toList, address]

variable (layout : R2Layout) (program : Machine → Machine) (session : R2Session)

theorem command_mapLine {at_ : String} {a : Int} (address : Text.readNumeral 16 at_ = some a) :
    command layout program ("dm.@" ++ at_).toList session = (.str (layout.mapLine a), session) := by
  simp [command, address?_toList address]

theorem command_writeBase64 (bytes : List UInt8) {at_ : String} {a : Int}
    (address : Text.readNumeral 16 at_ = some a) :
    command layout program ("w6d " ++ Text.base64 bytes ++ " @ " ++ at_).toList session =
      (.str "", { session with machine := session.machine.writeBytes a bytes }) := by
  have split := splitAt_append at_.toList (Text.base64Chars_no_space bytes)
  simp [command, Text.base64, address?_toList address, split, Text.base64Decode_base64Chars]

theorem command_role {role : String} (isRole : role ∈ R2Layout.roles) :
    command layout program ("drn " ++ role).toList session =
      (.str (layout.roleOf role ++ "\n"), session) := by
  simp [command, isRole]

theorem command_assign {name : String} (listed : name ∈ layout.registers) (value : Int) :
    command layout program ("dr " ++ name ++ "=" ++ Value.intText value).toList session =
      (.str "", { session with machine := session.machine.setRegister name value }) := by
  have noEquals : ∀ c ∈ name.toList, c ≠ '=' := fun c mem =>
    (layout.registers_plain name listed c mem).1
  have chars : ("dr " ++ name ++ "=" ++ Value.intText value).toList =
      'd' :: 'r' :: ' ' :: (name.toList ++ '=' :: (Value.intText value).toList) := by
    simp
  rw [chars]
  simp only [command]
  rw [span_append_stop '=' (Value.intText value).toList noEquals]
  simp [Text.readNumeral_intText, listed]

theorem command_break {at_ : String} {a : Int} (address : Text.readNumeral 16 at_ = some a) :
    command layout program ("db " ++ at_).toList session =
      (.str "", { session with breakpoints := withBreakpoint session.breakpoints a }) := by
  simp [command, address?_toList address]

theorem query_bytes (count : Int) {at_ : String} {a : Int}
    (address : Text.readNumeral 16 at_ = some a) :
    query layout ("pxj " ++ Value.intText count ++ " @ " ++ at_).toList session =
      .list ((session.machine.bytesAt a count.toNat).map fun b => .int b.toNat) := by
  have split := splitAt_append at_.toList (Text.intText_no_space count)
  simp [query, split, Text.readNumeral_intText, address?_toList address]

theorem lookup_table (f : String → Value) (name : String) :
    ∀ names : List String, Value.lookup name (names.map fun n => (n, f n)) =
      if name ∈ names then some (f name) else none
  | [] => rfl
  | n :: rest => by
    by_cases same : name = n
    · simp [Value.lookup, same]
    · simp [Value.lookup, same, lookup_table f name rest]

theorem registerTable_contains (name : String) :
    (registerTable layout session).contains (.str name) = .ok (decide (name ∈ layout.registers)) := by
  by_cases listed : name ∈ layout.registers <;>
    simp [registerTable, Value.contains, Value.hashable, Value.unhashablePart, Value.entryAt,
      lookup_table, listed]

theorem registerTable_index {name : String} (listed : name ∈ layout.registers) :
    (registerTable layout session).index (.str name) = .ok (.int (session.machine.registers name)) := by
  simp [registerTable, Value.index, Value.hashable, Value.unhashablePart, Value.entryAt,
    lookup_table, listed]

theorem anyM_map_ok {α : Type} {f : Value → Except Fault Bool} {g : α → Value} {p : α → Bool} :
    ∀ xs : List α, (∀ x ∈ xs, f (g x) = .ok (p x)) → (xs.map g).anyM f = .ok (xs.any p)
  | [], _ => rfl
  | x :: rest, each => by
    have tail := anyM_map_ok rest fun y mem => each y (List.mem_cons_of_mem x mem)
    rw [List.map_cons, List.anyM_cons, each x List.mem_cons_self]
    cases first : p x
    · simp [bind, Except.bind, tail, first]
    · simp [bind, Except.bind, pure, Except.pure, first]

theorem breakpointList_any (address : Int) :
    Radare.anyEntry (breakpointList session) (Radare.atAddress (.int address)) =
      .ok (decide (address ∈ session.breakpoints)) := by
  have entry : ∀ b ∈ session.breakpoints,
      (do
        let hit ← Radare.atAddress (.int address) (.dict [("addr", .int b)])
        pure (hit && (Value.dict [("addr", .int b)]).truthy) : Except Fault Bool) =
        .ok (b == address) := by
    intro b _
    simp [Radare.atAddress, Value.index, Value.hashable, Value.unhashablePart, Value.entryAt,
      Value.lookup, Value.same, Value.sameScalar, Value.asInt?, Value.truthy]
  unfold Radare.anyEntry breakpointList
  rw [show (Value.list _).items = .ok _ from rfl]
  simp only [bind, Except.bind]
  rw [anyM_map_ok _ entry, List.any_beq']
  simp

theorem toBytes_byteList (bytes : List UInt8) :
    (Value.list (bytes.map fun b => .int b.toNat)).toBytes = .ok bytes := by
  induction bytes with
  | nil => rfl
  | cons b rest ih =>
    have byte : (Value.int b.toNat).byteOf = .ok b := by
      simp [Value.byteOf, Value.asInt?, b.toNat_lt]
    simp [Value.toBytes] at ih ⊢
    simp [byte, ih, bind, Except.bind]

theorem cmd_run (text : String) :
    (Radare.cmd (link layout program) text).run session = .ok (command layout program text.toList session) :=
  rfl

theorem cmdj_run (text : String) :
    (Radare.cmdj (link layout program) text).run session = .ok (query layout text.toList session, session) :=
  rfl

theorem cmd_run_of {text : String} {reply : Value} {after : R2Session}
    (answered : command layout program text.toList session = (reply, after)) :
    (Radare.cmd (link layout program) text).run session = .ok (reply, after) := by
  rw [cmd_run, answered]

theorem roles_any (name : String) :
    ([.str "pc", .str "sp", .str "bp"] : List Value).any (Value.same · (.str name)) =
      decide (name ∈ R2Layout.roles) := by
  by_cases role : name ∈ R2Layout.roles
  · simp only [R2Layout.roles, List.mem_cons, List.not_mem_nil, or_false] at role
    rcases role with rfl | rfl | rfl <;> rfl
  · have other : name ≠ "pc" ∧ name ≠ "sp" ∧ name ≠ "bp" := by
      simpa [R2Layout.roles] using role
    simp [Value.same, role, Ne.symm other.1, Ne.symm other.2.1, Ne.symm other.2.2]

theorem resolve_run (name : String) :
    (Radare.resolve (link layout program) (.str name)).run session =
      .ok (.str (layout.resolve name), session) := by
  unfold Radare.resolve
  simp only [roles_any]
  by_cases role : name ∈ R2Layout.roles
  · have plain : ∀ c ∈ (layout.roleOf name).toList, Text.isBlank c = false := by
      intro c mem
      exact (layout.registers_plain _ (layout.roleOf_listed name role) c mem).2
    simp only [role, decide_true, if_true, Value.render_str]
    rw [run_bind_ok (cmd_run_of layout program session (command_role layout program session role))]
    rw [show (Value.str (layout.roleOf name ++ "\n")).strip = .ok (.str (layout.roleOf name)) by
      rw [Value.strip, Text.trimBlanks_append_newline _ plain]]
    rw [R2Layout.resolve, if_pos role]
    rfl
  · simp only [role, decide_false]
    rw [R2Layout.resolve, if_neg role]
    rfl

theorem readResolved_run {name : String} (listed : name ∈ layout.registers) :
    (Radare.readResolved (link layout program) (.str name)).run session =
      .ok (.int (session.machine.registers name), session) := by
  have table : (do
      let _ ← liftFault (Value.interpolate "R2ConcreteTarget read_register at %s " (.one (.str name)))
      Radare.cmdj (link layout program) "drtj all" : Run R2Session Value).run session =
      .ok (registerTable layout session, session) := by
    rw [liftFault_interpolate_bind rfl]
    rfl
  unfold Radare.readResolved rescue
  rw [run_bind_ok (run_tryCatch_ok table), registerTable_contains, run_bind_ok run_liftFault_ok,
    decide_eq_true listed, if_pos rfl, registerTable_index layout session listed]
  rfl

theorem readRegister_run {name : String} (listed : layout.resolve name ∈ layout.registers) :
    (Radare.readRegister (link layout program) (.str name)).run session =
      .ok (.int (session.machine.registers (layout.resolve name)), session) := by
  unfold Radare.readRegister
  rw [run_bind_ok (resolve_run layout program session name), readResolved_run layout program session listed]

theorem writeRegister_run {name : String} (listed : layout.resolve name ∈ layout.registers)
    {value : Int} (fits : Value.decimalFits value) :
    (Radare.writeRegister (link layout program) (.str name) (.int value)).run session =
      .ok (.none, { session with machine := session.machine.setRegister (layout.resolve name) value }) := by
  have stable : layout.resolve (layout.resolve name) = layout.resolve name := layout.resolve_resolve name
  have table : (Radare.cmdj (link layout program) "drtj all").run session =
      .ok (registerTable layout session, session) := rfl
  have relisted : layout.resolve (layout.resolve name) ∈ layout.registers := by
    rw [stable]
    exact listed
  have readBack := readRegister_run layout program
    { session with machine := session.machine.setRegister (layout.resolve name) value } relisted
  unfold Radare.writeRegister
  rw [run_bind_ok (resolve_run layout program session name), run_bind_ok table,
    registerTable_contains, run_bind_ok run_liftFault_ok, decide_eq_true listed]
  simp only [Bool.not_true, Bool.false_eq_true, if_false]
  rw [Value.renderLimited_str _,
    run_bind_ok run_liftFault_ok, Value.hexDigits_int value,
    run_bind_ok run_liftFault_ok, Value.renderLimited_int fits, run_bind_ok run_liftFault_ok,
    run_bind_ok (cmd_run_of layout program session (command_assign layout program session listed value)),
    run_bind_ok readBack]
  simp [stable, Value.same, Value.sameScalar, Value.asInt?]
  rfl

theorem readNumeral_of_hexLiteral {a : Int} {at_ : String}
    (literal : (Value.int a).hexLiteral = .ok at_) : Text.readNumeral 16 at_ = some a := by
  simp only [Value.hexLiteral, Value.asInt?, Except.ok.injEq] at literal
  rw [← literal]
  exact Text.readNumeral_hexLiteral a

theorem readMemory_run {a n : Int} (mapped : layout.mapLine a ≠ "") (fits : Value.decimalFits n) :
    (Radare.readMemory (link layout program) (.int a) (.int n)).run session =
      .ok (.bytes (session.machine.bytesAt a n.toNat), session) := by
  obtain ⟨at_, literal⟩ : ∃ text, (Value.int a).hexLiteral = .ok text := ⟨_, rfl⟩
  have address := readNumeral_of_hexLiteral literal
  have unmapped : Value.same (.str (layout.mapLine a)) (.str "") = false := by
    simpa [Value.same] using mapped
  unfold Radare.readMemory
  rw [liftFault_interpolate_bind rfl, literal, run_bind_ok run_liftFault_ok,
    run_bind_ok (cmd_run_of layout program session (command_mapLine layout program session address))]
  simp only [unmapped, Bool.false_eq_true, if_false]
  rw [Value.renderLimited_int fits, run_bind_ok run_liftFault_ok, run_bind_ok (cmdj_run layout program session _),
    query_bytes layout session n address, toBytes_byteList]
  rfl

theorem writeMemory_run (a : Int) (bytes : List UInt8) :
    (Radare.writeMemory (link layout program) (.int a) (.bytes bytes)).run session =
      .ok (.none, { session with machine := session.machine.writeBytes a bytes }) := by
  obtain ⟨at_, literal⟩ : ∃ text, (Value.int a).hexLiteral = .ok text := ⟨_, rfl⟩
  have address := readNumeral_of_hexLiteral literal
  unfold Radare.writeMemory rescue
  rw [Value.hexDigits_int a, run_bind_ok run_liftFault_ok]
  apply run_tryCatch_ok
  rw [literal, run_bind_ok run_liftFault_ok,
    run_bind_ok (cmd_run_of layout program session (command_writeBase64 layout program session bytes address))]
  rfl

theorem setBreakpoint_run (a : Int) :
    (Radare.setBreakpoint (link layout program) (.int a)).run session =
      .ok (.none, { session with breakpoints := withBreakpoint session.breakpoints a }) := by
  obtain ⟨at_, literal⟩ : ∃ text, (Value.int a).hexLiteral = .ok text := ⟨_, rfl⟩
  have address := readNumeral_of_hexLiteral literal
  have listed : a ∈ withBreakpoint session.breakpoints a := by
    unfold withBreakpoint
    split
    · assumption
    · simp
  unfold Radare.setBreakpoint
  rw [liftFault_interpolate_bind rfl, literal, run_bind_ok run_liftFault_ok,
    run_bind_ok (cmd_run_of layout program session (command_break layout program session address)),
    run_bind_ok (cmdj_run layout program _ _), show "dbj".toList = ['d', 'b', 'j'] from rfl]
  simp only [query, breakpointList_any, decide_eq_true listed]
  rfl

theorem run_run :
    (Radare.run (link layout program)).run session =
      .ok (.none, { session with machine := program session.machine }) := rfl

end R2Session

end DebugBridge
