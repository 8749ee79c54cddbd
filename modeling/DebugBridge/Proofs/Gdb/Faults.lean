import DebugBridge.Gdb
import DebugBridge.Proofs.Stepping
import DebugBridge.Proofs.Gdb.Page
import Mathlib.Data.Nat.Digits.Defs
import Mathlib.Tactic.Ring
import Mathlib.Tactic.Positivity
/-!
# What the gdb adapter lets through from its backend

Against a backend that is any function from calls to replies or faults (`Probe`, which keeps
the calls made even when a run fails), the gdb adapter's data operations guard their one
call: a memory operation ends in its value or in a memory fault, a register operation in its
value or in a register fault (`Guarded`). Breakpoint operations do not: a reply of `-1` is a
breakpoint fault, and a raised fault passes through (`Refusable`). Register words read as
the integer whose base-2^32 digits they are, and a memory read asks for no byte past the end
of the page it starts in (`read_stays_in_page`).
-/

namespace DebugBridge

set_option autoImplicit false

/-- Runs against a backend, keeping the calls made, also through a failure. -/
abbrev Probe := ExceptT Fault (StateM (List Call))

namespace Probe

def link (backend : Call → Except Fault Value) : Link Probe where
  send c := ExceptT.mk fun calls => (backend c, calls ++ [c])
  print _ := pure ()

section Steps

variable {α β : Type} {x : Probe α} {s s' : List Call}

theorem bind_ok {f : α → Probe β} {a : α} (succeeds : x.run.run s = (.ok a, s')) :
    (x >>= f).run.run s = (f a).run.run s' := by
  rw [ExceptT.run_bind, StateT.run_bind, succeeds]
  rfl

theorem bind_error {f : α → Probe β} {e : Fault} (fails : x.run.run s = (.error e, s')) :
    (x >>= f).run.run s = (.error e, s') := by
  rw [ExceptT.run_bind, StateT.run_bind, fails]
  rfl

theorem tryCatch_ok {handler : Fault → Probe α} {a : α} (succeeds : x.run.run s = (.ok a, s')) :
    (tryCatchThe Fault x handler).run.run s = (.ok a, s') := by
  show (ExceptT.tryCatch x handler).run.run s = _
  change StateT.run x s = _ at succeeds
  rw [ExceptT.tryCatch, ExceptT.run_mk, StateT.run_bind, succeeds]
  rfl

theorem tryCatch_error {handler : Fault → Probe α} {e : Fault}
    (fails : x.run.run s = (.error e, s')) :
    (tryCatchThe Fault x handler).run.run s = (handler e).run.run s' := by
  show (ExceptT.tryCatch x handler).run.run s = _
  change StateT.run x s = _ at fails
  rw [ExceptT.tryCatch, ExceptT.run_mk, StateT.run_bind, fails]
  rfl

theorem send_run (backend : Call → Except Fault Value) (c : Call) :
    ((link backend).send c).run.run s = (backend c, s ++ [c]) := rfl

theorem throw_run (e : Fault) : (throwThe Fault e : Probe α).run.run s = (.error e, s) := rfl

theorem liftFault_ok_run (a : α) : (liftFault (.ok a) : Probe α).run.run s = (.ok a, s) := rfl

theorem bind_result {f : α → Probe β} {r : Except Fault α} (ran : x.run.run s = (r, s')) :
    ((x >>= f).run.run s).1 = r.bind fun a => ((f a).run.run s').1 := by
  cases r with
  | ok a =>
    rw [bind_ok ran]
    rfl
  | error e =>
    rw [bind_error ran]
    rfl

theorem liftFault_run (r : Except Fault α) : (liftFault r : Probe α).run.run s = (r, s) := by
  cases r <;> rfl

theorem mapM_liftFault_run (f : α → Except Fault β) (xs : List α) :
    (xs.mapM fun a => (liftFault (f a) : Probe β)).run.run s = (xs.mapM f, s) := by
  induction xs with
  | nil => rfl
  | cons a rest ih =>
    rw [List.mapM_cons, List.mapM_cons]
    cases fa : f a with
    | error e =>
      rw [bind_error (liftFault_run (.error e))]
      rfl
    | ok b =>
      rw [bind_ok (liftFault_run (.ok b))]
      cases more : rest.mapM f with
      | error e =>
        rw [more] at ih
        rw [bind_error ih]
        rfl
      | ok bs =>
        rw [more] at ih
        rw [bind_ok ih]
        rfl

theorem raiseFilled_run {template : String} {args : Value.FormatArgs} {kind : String → Fault}
    (filled : Value.fills template args = true) :
    (do
      let text ← liftFault (Value.interpolate template args)
      throwThe Fault (kind text) : Probe α).run.run s =
      (.error (kind ((Value.interpolate template args).toOption.getD "")), s) := by
  obtain ⟨text, interpolated⟩ := Value.interpolate_ok filled
  rw [interpolated]
  rfl

end Steps

end Probe

/-- An operation makes exactly one call, on `path`, and ends as `ends` says of its reply. -/
def OneCall (op : Probe Value) (backend : Call → Except Fault Value) (path : String)
    (ends : Except Fault Value → Except Fault Value → Prop) : Prop :=
  ∃ c, c.path = path ∧ ∃ outcome, op.run.run [] = (outcome, [c]) ∧ ends (backend c) outcome

/-- How a guarded operation ends: with what `accept` makes of a reply it takes, and with a
fault of kind `kind` for a reply it does not take or a fault the backend raised. -/
def Guarded (kind : String → Fault) (accept : Value → Option Value)
    (reply outcome : Except Fault Value) : Prop :=
  match reply.toOption.bind accept with
  | some v => outcome = .ok v
  | Option.none => ∃ text, outcome = .error (kind text)

/-- How a breakpoint operation ends: a breakpoint fault for the reply `-1`, nothing for any
other reply, and a fault the backend raised as it is. -/
def Refusable (reply outcome : Except Fault Value) : Prop :=
  match reply with
  | .ok v => (v = .int (-1) → ∃ text, outcome = .error (.breakpoint text)) ∧
      (v ≠ .int (-1) → outcome = .ok .none)
  | .error e => outcome = .error e

def targetReply : Value → Bool
  | .int _ | .bytes _ | .bool _ | .none => true
  | .list xs => xs.all fun x => (x matches .int _)
  | _ => false

/-- The integer of a register given as words: word `i` shifted left by `32 * i`, all or-ed
together in two's complement. -/
def packWords (words : List Int) : Int :=
  words.zipIdx.foldl (fun acc (w, i) => Value.orInt acc (w * 2 ^ (32 * i))) 0

def registerReading : Value → Option Value
  | .list xs => (xs.mapM Value.asInt?).map fun words => .int (packWords words)
  | v => some v

def acknowledged (reply : Value) : Option Value := if reply.truthy then some .none else Option.none

section Words

/-- Words each below `2^32` are the base-`2^32` digits of the integer they pack into: the or
of a word shifted past the words before it adds it. -/
theorem foldl_words_digits (words : List Nat) (small : ∀ w ∈ words, w < 2 ^ 32) :
    ∀ (acc k : Nat), acc < 2 ^ (32 * k) →
      ((words.map (Nat.cast : Nat → Int)).zipIdx k).foldl
        (fun acc (w, i) => Value.orInt acc (w * 2 ^ (32 * i))) (acc : Int) =
        ((acc + 2 ^ (32 * k) * Nat.ofDigits (2 ^ 32) words : Nat) : Int) := by
  induction words with
  | nil =>
    intro acc k _
    simp
  | cons w rest ih =>
    intro acc k below
    have word : w < 2 ^ 32 := small w (List.mem_cons_self ..)
    have place : 2 ^ (32 * (k + 1)) = 2 ^ 32 * 2 ^ (32 * k) := by
      rw [Nat.mul_succ, Nat.pow_add, Nat.mul_comm]
    -- the word lands above every bit of `acc`, so or-ing it in is adding it
    have disjoint : acc ||| w * 2 ^ (32 * k) = acc + w * 2 ^ (32 * k) := by
      rw [Nat.or_comm, ← Nat.shiftLeft_eq, ← Nat.shiftLeft_add_eq_or_of_lt below, Nat.add_comm]
    have stepped : Value.orInt (acc : Int) ((w : Int) * 2 ^ (32 * k)) =
        ((acc + w * 2 ^ (32 * k) : Nat) : Int) := by
      rw [← disjoint]
      rfl
    have grown : acc + w * 2 ^ (32 * k) < 2 ^ (32 * (k + 1)) := by
      have scaled : w * 2 ^ (32 * k) ≤ (2 ^ 32 - 1) * 2 ^ (32 * k) :=
        Nat.mul_le_mul_right _ (by omega)
      rw [place]
      have spread : (2 ^ 32 - 1) * 2 ^ (32 * k) + 2 ^ (32 * k) = 2 ^ 32 * 2 ^ (32 * k) := by
        rw [Nat.sub_mul, Nat.one_mul, Nat.sub_add_cancel (Nat.le_mul_of_pos_left _ (by positivity))]
      omega
    rw [List.map_cons, List.zipIdx_cons, List.foldl_cons]
    dsimp only
    rw [stepped, ih (fun v mem => small v (List.mem_cons_of_mem w mem)) _ (k + 1) grown,
      Nat.ofDigits_cons, place]
    have regroup : acc + w * 2 ^ (32 * k) + 2 ^ 32 * 2 ^ (32 * k) * Nat.ofDigits (2 ^ 32) rest =
        acc + 2 ^ (32 * k) * (w + 2 ^ 32 * Nat.ofDigits (2 ^ 32) rest) := by ring
    rw [regroup]

theorem packWords_digits (words : List Nat) (small : ∀ w ∈ words, w < 2 ^ 32) :
    packWords (words.map (Nat.cast : Nat → Int)) = ((Nat.ofDigits (2 ^ 32) words : Nat) : Int) := by
  have packed := foldl_words_digits words small 0 0 (by decide)
  simpa [packWords] using packed

theorem ints_of_targetReply {xs : List Value} (reply : targetReply (.list xs) = true) :
    ∃ words : List Int, xs = words.map Value.int := by
  induction xs with
  | nil => exact ⟨[], rfl⟩
  | cons x rest ih =>
    simp only [targetReply, List.all_cons, Bool.and_eq_true] at reply
    obtain ⟨isInt, restInts⟩ := reply
    obtain ⟨words, rfl⟩ := ih (by simpa [targetReply] using restInts)
    cases x with
    | int n => exact ⟨n :: words, rfl⟩
    | _ => simp at isInt

theorem registerReading_words (words : List Int) :
    registerReading (.list (words.map Value.int)) = some (.int (packWords words)) := by
  have asInts : (words.map Value.int).mapM Value.asInt? = some words := by
    induction words with
    | nil => rfl
    | cons w rest ih => simp [List.mapM_cons, Value.asInt?, ih]
  simp [registerReading, asInts]

theorem registerReading_of_not_list {v : Value} (notList : ∀ xs, v ≠ .list xs) :
    registerReading v = some v := by
  cases v with
  | list xs => exact absurd rfl (notList xs)
  | _ => rfl

end Words

section Outcomes

variable {kind : String → Fault} {accept : Value → Option Value}

theorem guarded_raised (e : Fault) (text : String) :
    Guarded kind accept (.error e) (.error (kind text)) := ⟨text, rfl⟩

theorem guarded_taken {v w : Value} (taken : accept v = some w) :
    Guarded kind accept (.ok v) (.ok w) := by
  simp [Guarded, Except.toOption, taken]

theorem acknowledged_eq_some {v w : Value} (accepted : acknowledged v = some w) :
    v.truthy = true ∧ w = .none := by
  unfold acknowledged at accepted
  split at accepted
  · exact ⟨‹_›, (Option.some.inj accepted).symm⟩
  · cases accepted

theorem truthy_of_unacknowledged {r : Except Fault Value} {v : Value}
    (reading : r.toOption.bind acknowledged = Option.none) (reply : r = .ok v) :
    v.truthy = false := by
  subst reply
  simpa [Except.toOption, acknowledged] using reading

end Outcomes

section Guarding

variable {backend : Call → Except Fault Value} {c : Call} {kind : String → Fault}
  {accept : Value → Option Value}

theorem guarded_run {body : Probe Value} {handler : Fault → Probe Value}
    (taken : ∀ v w, backend c = .ok v → accept v = some w → body.run.run [] = (.ok w, [c]))
    (refused : (backend c).toOption.bind accept = Option.none →
      ∃ e, body.run.run [] = (.error e, [c]))
    (handles : ∀ e, ∃ text, (handler e).run.run [c] = (.error (kind text), [c])) :
    ∃ outcome, (tryCatchThe Fault body handler).run.run [] = (outcome, [c]) ∧
      Guarded kind accept (backend c) outcome := by
  cases reading : (backend c).toOption.bind accept with
  | some w =>
    obtain ⟨v, replied, accepted⟩ : ∃ v, backend c = .ok v ∧ accept v = some w := by
      cases reply : backend c with
      | ok v => exact ⟨v, rfl, by simpa [reply, Except.toOption] using reading⟩
      | error e => simp [reply, Except.toOption] at reading
    refine ⟨.ok w, Probe.tryCatch_ok (taken v w replied accepted), ?_⟩
    simp [Guarded, reading]
  | none =>
    obtain ⟨e, failed⟩ := refused reading
    obtain ⟨text, handled⟩ := handles e
    refine ⟨.error (kind text), (Probe.tryCatch_error failed).trans handled, ?_⟩
    simp [Guarded, reading]

end Guarding

namespace GdbTarget

variable (backend : Call → Except Fault Value)

theorem send_reply {c : Call} {r : Except Fault Value} (reply : backend c = r) :
    ((Probe.link backend).send c).run.run [] = (r, [c]) := by
  rw [Probe.send_run, reply]
  rfl

def readCall (address count : Int) : Call :=
  { path := "target.read_memory", args := [.int address, .int 1, .int count],
    options := [("raw", .bool true)] }

theorem readMemory_run {t : GdbTarget} {address nbytes count : Int}
    (counted : t.readCount (.int address) (.int nbytes) = .ok count) :
    ∃ outcome, (readMemory (Probe.link backend) t (.int address) (.int nbytes)).run.run [] =
      (outcome, [readCall address count]) ∧
      Guarded .memory some (backend (readCall address count)) outcome := by
  have body {r : Except Fault Value} (reply : backend (readCall address count) = r) : (do
      let _ ← liftFault (Value.interpolate "AvatarGDBConcreteTarget read_memory at %x "
        (.one (.int address)))
      let count ← liftFault (t.readCount (.int address) (.int nbytes))
      (Probe.link backend).send
        { path := "target.read_memory"
          args := [.int address, .int 1, .int count]
          options := [("raw", .bool true)] } : Probe Value).run.run [] =
        (r, [readCall address count]) := by
    rw [liftFault_interpolate_bind rfl, counted,
      Probe.bind_ok (Probe.liftFault_ok_run _)]
    exact send_reply backend reply
  unfold readMemory rescue
  refine guarded_run ?taken ?refused ?handles
  case taken =>
    intro v w replied accepted
    cases accepted
    exact body replied
  case refused =>
    intro reading
    cases reply : backend (readCall address count) with
    | ok v => simp [reply, Except.toOption] at reading
    | error e => exact ⟨e, body reply⟩
  case handles =>
    intro e
    exact ⟨_, Probe.raiseFilled_run rfl⟩

theorem readMemory_oneCall {t : GdbTarget} {pageSize : Int} (page : t.pageSize = .int pageSize)
    (address nbytes : Int) :
    OneCall (readMemory (Probe.link backend) t (.int address) (.int nbytes)) backend
      "target.read_memory" (Guarded .memory some) :=
  ⟨_, rfl, readMemory_run backend (readCount_of_pageSize page address nbytes)⟩

/-- A read at any address and of any count, behind pages whose size is a power of two, makes
exactly one call, for the count cut at the end of the address's page. For a positive count
the bytes asked for are some and lie inside that page, and a count that fits the page is
asked for whole. -/
theorem read_stays_in_page (t : GdbTarget) (k : Nat) (page : t.pageSize = .int (2 ^ k))
    (address nbytes : Int) :
    let count := min nbytes (2 ^ k - address % 2 ^ k)
    let pageStart := 2 ^ k * (address / 2 ^ k)
    (∃ outcome, (readMemory (Probe.link backend) t (.int address) (.int nbytes)).run.run [] =
      (outcome, [{ path := "target.read_memory"
                   args := [.int address, .int 1, .int count]
                   options := [("raw", .bool true)] }])) ∧
    (1 ≤ nbytes → 0 < count ∧ pageStart ≤ address ∧ address + count ≤ pageStart + 2 ^ k) ∧
    (address + nbytes ≤ pageStart + 2 ^ k → count = nbytes) := by
  intro count pageStart
  have positive : (0 : Int) < 2 ^ k := by positivity
  have quotient := Int.mul_ediv_add_emod address (2 ^ k)
  have remainder := Int.emod_nonneg address positive.ne'
  have below := Int.emod_lt_of_pos address positive
  -- the page end the adapter computes is the next multiple of the page size
  have room : nextPage (2 ^ k) address - address = 2 ^ k - address % 2 ^ k := by
    unfold nextPage
    omega
  obtain ⟨outcome, ran, -⟩ := readMemory_run backend (readCount_int page address nbytes)
  rw [room] at ran
  refine ⟨⟨outcome, ran⟩, ?_, ?_⟩
  · intro some
    omega
  · intro fits
    omega

theorem read_stays_in_page_at_page_end :
    ({ architecture := .str "x86_64" } : GdbTarget).pageSize = .int (2 ^ 12) ∧
      let count := min 2 (2 ^ 12 - 0xfff % 2 ^ 12)
      let pageStart := 2 ^ 12 * (0xfff / 2 ^ 12)
      (∃ outcome, (readMemory (Probe.link fun _ => .ok (.bytes [0x55]))
          { architecture := .str "x86_64" } (.int 0xfff) (.int 2)).run.run [] =
        (outcome, [{ path := "target.read_memory"
                     args := [.int 0xfff, .int 1, .int count]
                     options := [("raw", .bool true)] }])) ∧
      (1 ≤ (2 : Int) → 0 < count ∧ pageStart ≤ 0xfff ∧ 0xfff + count ≤ pageStart + 2 ^ 12) ∧
      (0xfff + 2 ≤ pageStart + 2 ^ 12 → count = 2) :=
  ⟨rfl, read_stays_in_page (fun _ => .ok (.bytes [0x55])) { architecture := .str "x86_64" } 12 rfl
    0xfff 2⟩

theorem writeMemory_oneCall (address : Int) {value : Value} (fits : value.textFits = true) :
    OneCall (writeMemory (Probe.link backend) (.int address) value) backend
      "target.write_memory" (Guarded .memory acknowledged) := by
  let c : Call :=
    { path := "target.write_memory"
      args := [.int address, .int 1, value]
      options := [("raw", .bool true)] }
  have failedFills : Value.fills "AvatarGDBConcreteTarget failed write_memory at %x value %s"
      (.many [.int address, value]) = true := by
    unfold Value.fills
    rw [show Value.conversionLetters
      "AvatarGDBConcreteTarget failed write_memory at %x value %s".toList = some ['x', 's'] from rfl]
    simp [Value.FormatArgs.values, Value.takesAll, Value.takes, fits, Value.asInt?]
  have raisedFills (message : String) :
      Value.fills "AvatarGDBConcreteTarget write_memory at %x value %s exception %s"
        (.many [.int address, value, .str message]) = true := by
    unfold Value.fills
    rw [show Value.conversionLetters
      "AvatarGDBConcreteTarget write_memory at %x value %s exception %s".toList =
        some ['x', 's', 's'] from rfl]
    simp [Value.FormatArgs.values, Value.takesAll, Value.takes, fits, Value.asInt?, Value.textFits]
  unfold writeMemory rescue
  refine ⟨c, rfl, guarded_run ?taken ?refused ?handles⟩
  case taken =>
    intro v w replied accepted
    obtain ⟨truthy, rfl⟩ := acknowledged_eq_some accepted
    rw [Probe.bind_ok (send_reply backend replied)]
    simp only [truthy, Bool.not_true, Bool.false_eq_true, if_false]
    rfl
  case refused =>
    intro reading
    cases reply : backend c with
    | error e => exact ⟨e, Probe.bind_error (send_reply backend reply)⟩
    | ok v =>
      have falsy := truthy_of_unacknowledged reading reply
      obtain ⟨text, interpolated⟩ : ∃ text, Value.interpolate
          "AvatarGDBConcreteTarget failed write_memory to address %x" (.one (.int address)) =
            .ok text := Value.interpolate_ok rfl
      refine ⟨.memory text, ?_⟩
      rw [Probe.bind_ok (send_reply backend reply)]
      simp only [falsy, Bool.not_false, if_true]
      rw [liftFault_interpolate_bind failedFills, interpolated,
        Probe.bind_ok (Probe.liftFault_ok_run text)]
      exact Probe.bind_error (Probe.throw_run _)
  case handles =>
    intro e
    exact ⟨_, Probe.raiseFilled_run (raisedFills e.message)⟩

theorem foldlM_joinWords (words : List Int) : ∀ (acc : Int) (k : Nat),
    ((words.map Value.int).zipIdx k).foldlM (fun acc (w, i) => do
      let shifted ← w.shiftLeft (.int (32 * i))
      acc.bitOr shifted) (Value.int acc) =
      .ok (.int ((words.zipIdx k).foldl
        (fun acc (w, i) => Value.orInt acc (w * 2 ^ (32 * i))) acc)) := by
  induction words with
  | nil =>
    intro acc k
    rfl
  | cons w rest ih =>
    intro acc k
    have exponent : (32 * (k : Int)).toNat = 32 * k := by omega
    have step : (do
        let shifted ← (Value.int w).shiftLeft (.int (32 * (k : Int)))
        (Value.int acc).bitOr shifted : Except Fault Value) =
        .ok (.int (Value.orInt acc (w * 2 ^ (32 * k)))) := by
      simp [Value.shiftLeft, Value.bitOr, Value.asInt?, exponent, bind, Except.bind]
    rw [List.map_cons, List.zipIdx_cons, List.foldlM_cons, List.zipIdx_cons, List.foldl_cons]
    dsimp only
    rw [step]
    exact ih _ _

theorem joinWords_ints (words : List Int) :
    joinWords (words.map Value.int) = .ok (.int (packWords words)) :=
  foldlM_joinWords words 0 0

theorem readRegister_oneCall (replies : ∀ c v, backend c = .ok v → targetReply v = true)
    (register : String) :
    OneCall (readRegister (Probe.link backend) (.str register)) backend "target.read_register"
      (Guarded .register registerReading) := by
  let c : Call := { path := "target.read_register", args := [.str register] }
  have body {r : Except Fault Value} (reply : backend c = r) : (do
      let _ ← liftFault (Value.interpolate "AvatarGDBConcreteTarget read_register at %s "
        (.one (.str register)))
      (Probe.link backend).send { path := "target.read_register", args := [.str register] } :
        Probe Value).run.run [] = (r, [c]) := by
    rw [liftFault_interpolate_bind rfl, send_reply backend reply]
  unfold readRegister rescue
  refine ⟨c, rfl, ?_⟩
  cases reply : backend c with
  | error e =>
    refine ⟨_, Probe.bind_error ((Probe.tryCatch_error (body reply)).trans rfl),
      guarded_raised e _⟩
  | ok v =>
    rw [Probe.bind_ok (Probe.tryCatch_ok (body reply))]
    by_cases listed : ∃ xs, v = .list xs
    · -- only lists of integers come back, and they pack into one integer
      obtain ⟨xs, rfl⟩ := listed
      obtain ⟨words, rfl⟩ := ints_of_targetReply (replies c _ reply)
      refine ⟨.ok (.int (packWords words)), ?_, guarded_taken (registerReading_words words)⟩
      show (liftFault (joinWords (words.map Value.int)) : Probe Value).run.run [c] = _
      rw [joinWords_ints]
      rfl
    · have notList : ∀ xs, v ≠ .list xs := fun xs same => listed ⟨xs, same⟩
      refine ⟨.ok v, ?_, guarded_taken (registerReading_of_not_list notList)⟩
      split
      · exact absurd rfl (notList _)
      · rfl

theorem writeRegister_oneCall (register : String) (value : Int) :
    OneCall (writeRegister (Probe.link backend) (.str register) (.int value)) backend
      "target.write_register" (Guarded .register acknowledged) := by
  let c : Call := { path := "target.write_register", args := [.str register, .int value] }
  obtain ⟨name, named⟩ : ∃ name, (Value.str register).renderLimited = .ok name := ⟨_, rfl⟩
  unfold writeRegister rescue
  refine ⟨c, rfl, ?_⟩
  rw [named, Probe.bind_ok (Probe.liftFault_ok_run name),
    Value.hexDigits_int value,
    Probe.bind_ok (Probe.liftFault_ok_run _)]
  refine guarded_run ?taken ?refused ?handles
  case taken =>
    intro v w replied accepted
    obtain ⟨truthy, rfl⟩ := acknowledged_eq_some accepted
    rw [Probe.bind_ok (send_reply backend replied)]
    simp only [truthy, Bool.not_true, Bool.false_eq_true, if_false]
    rfl
  case refused =>
    intro reading
    cases reply : backend c with
    | error e => exact ⟨e, Probe.bind_error (send_reply backend reply)⟩
    | ok v =>
      have falsy := truthy_of_unacknowledged reading reply
      exact ⟨_, by
        rw [Probe.bind_ok (send_reply backend reply)]
        simp only [falsy, Bool.not_false, if_true]
        exact Probe.bind_error (Probe.throw_run _)⟩
  case handles =>
    intro e
    exact ⟨_, rfl⟩

theorem refused_iff {v : Value} (reply : targetReply v = true) :
    refused v = true ↔ v = .int (-1) := by
  cases v with
  | int n => simp [refused, Value.same, Value.sameScalar, Value.asInt?]
  | bool b => cases b <;> simp [refused, Value.same, Value.sameScalar, Value.asInt?]
  | bytes b => simp [refused, Value.same, Value.sameScalar, Value.asInt?, Value.asBytes?]
  | none => simp [refused, Value.same]
  | list xs => simp [refused, Value.same]
  | _ => simp [targetReply] at reply

theorem refusal_oneCall (replies : ∀ c v, backend c = .ok v → targetReply v = true)
    (address : Int) (c : Call) :
    OneCall (do
      let reply ← (Probe.link backend).send c
      if refused reply then (breakpointFault (.int address) : Probe Value) else pure .none)
      backend c.path Refusable := by
  refine ⟨c, rfl, ?_⟩
  cases reply : backend c with
  | error e => exact ⟨.error e, Probe.bind_error (send_reply backend reply), rfl⟩
  | ok v =>
    have refusal := refused_iff (replies c v reply)
    by_cases minusOne : v = .int (-1)
    · obtain ⟨text, interpolated⟩ : ∃ text, Value.interpolate
          "AvatarGDBConcreteTarget failed to set_breakpoint at %x" (.one (.int address)) =
            .ok text := Value.interpolate_ok rfl
      refine ⟨.error (.breakpoint text), ?_, fun _ => ⟨text, rfl⟩, fun other => absurd minusOne other⟩
      rw [Probe.bind_ok (send_reply backend reply), refusal.mpr minusOne, if_pos rfl]
      unfold breakpointFault
      rw [interpolated]
      rfl
    · have kept : refused v = false :=
        Bool.eq_false_iff.mpr fun refusedNow => minusOne (refusal.mp refusedNow)
      refine ⟨.ok .none, ?_, fun same => absurd same minusOne, fun _ => rfl⟩
      rw [Probe.bind_ok (send_reply backend reply), kept]
      rfl

theorem setBreakpoint_oneCall (replies : ∀ c v, backend c = .ok v → targetReply v = true)
    (address : Int) (options : List (String × Value)) :
    OneCall (setBreakpoint (Probe.link backend) (.int address) options) backend
      "target.set_breakpoint" Refusable := by
  unfold setBreakpoint
  rw [liftFault_interpolate_bind rfl]
  exact refusal_oneCall backend replies address _

theorem removeBreakpoint_oneCall (replies : ∀ c v, backend c = .ok v → targetReply v = true)
    (address : Int) (options : List (String × Value)) :
    OneCall (removeBreakpoint (Probe.link backend) (.int address) options) backend
      "target.remove_breakpoint" Refusable := by
  unfold removeBreakpoint
  rw [liftFault_interpolate_bind rfl]
  exact refusal_oneCall backend replies address _

theorem setWatchpoint_oneCall (replies : ∀ c v, backend c = .ok v → targetReply v = true)
    (address : Int) (options : List (String × Value)) :
    OneCall (setWatchpoint (Probe.link backend) (.int address) options) backend
      "target.set_watchpoint" Refusable :=
  refusal_oneCall backend replies address _

/-- Whatever an avatar2 target replies or raises, each memory and register operation makes
one call and ends in the value its reply gives or in its own kind of fault, and each
breakpoint operation makes one call and fails with a breakpoint fault exactly on `-1`. -/
theorem backend_faults_stay_wrapped (backend : Call → Except Fault Value)
    (replies : ∀ c v, backend c = .ok v → targetReply v = true)
    (t : GdbTarget) (pageSize : Int) (page : t.pageSize = .int pageSize)
    (address nbytes : Int) (value : Value) (fits : value.textFits = true)
    (register : String) (registerValue : Int) (options : List (String × Value)) :
    let link := Probe.link backend
    OneCall (readMemory link t (.int address) (.int nbytes)) backend "target.read_memory"
        (Guarded .memory some) ∧
      OneCall (writeMemory link (.int address) value) backend "target.write_memory"
        (Guarded .memory acknowledged) ∧
      OneCall (readRegister link (.str register)) backend "target.read_register"
        (Guarded .register registerReading) ∧
      OneCall (writeRegister link (.str register) (.int registerValue)) backend
        "target.write_register" (Guarded .register acknowledged) ∧
      OneCall (setBreakpoint link (.int address) options) backend "target.set_breakpoint"
        Refusable ∧
      OneCall (removeBreakpoint link (.int address) options) backend "target.remove_breakpoint"
        Refusable ∧
      OneCall (setWatchpoint link (.int address) options) backend "target.set_watchpoint"
        Refusable := by
  intro link
  exact ⟨readMemory_oneCall backend page address nbytes,
    writeMemory_oneCall backend address fits,
    readRegister_oneCall backend replies register,
    writeRegister_oneCall backend register registerValue,
    setBreakpoint_oneCall backend replies address options,
    removeBreakpoint_oneCall backend replies address options,
    setWatchpoint_oneCall backend replies address options⟩

theorem backend_faults_stay_wrapped_on_refusals :
    (∀ c v, (fun _ => .ok (.bool false) : Call → Except Fault Value) c = .ok v →
        targetReply v = true) ∧
      ({ architecture := .str "x86_64" } : GdbTarget).pageSize = .int 0x1000 ∧
      (Value.bytes [0x90]).textFits = true ∧
      let backend : Call → Except Fault Value := fun _ => .ok (.bool false)
      let link := Probe.link backend
      OneCall (readMemory link { architecture := .str "x86_64" } (.int 0x1000) (.int 1)) backend
          "target.read_memory" (Guarded .memory some) ∧
        OneCall (writeMemory link (.int 0x1000) (.bytes [0x90])) backend "target.write_memory"
          (Guarded .memory acknowledged) ∧
        OneCall (readRegister link (.str "rax")) backend "target.read_register"
          (Guarded .register registerReading) ∧
        OneCall (writeRegister link (.str "rax") (.int 0)) backend "target.write_register"
          (Guarded .register acknowledged) ∧
        OneCall (setBreakpoint link (.int 0x1000) []) backend "target.set_breakpoint" Refusable ∧
        OneCall (removeBreakpoint link (.int 0x1000) []) backend "target.remove_breakpoint"
          Refusable ∧
        OneCall (setWatchpoint link (.int 0x1000) []) backend "target.set_watchpoint" Refusable := by
  have replies : ∀ c v, (fun _ => .ok (.bool false) : Call → Except Fault Value) c = .ok v →
      targetReply v = true := by
    intro c v reply
    cases reply
    rfl
  exact ⟨replies, rfl, rfl, backend_faults_stay_wrapped (fun _ => .ok (.bool false)) replies
    { architecture := .str "x86_64" } 0x1000 rfl 0x1000 1 (.bytes [0x90]) rfl "rax" 0 []⟩

end GdbTarget

end DebugBridge
