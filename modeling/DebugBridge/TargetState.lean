import DebugBridge.Value.Access
/-!
# Run states of a target

The states a debugged target can be in, each with its numeric code. The codes of the
single states are distinct powers of two; `notRunning` is the union of `initialized` and
`stopped`. A state is found by its code, where any value equal to the code will do, or by
its name, which must match exactly.
-/

namespace DebugBridge

set_option autoImplicit false

/-- The run state of a target. -/
inductive TargetState where
  | created
  | initialized
  | stopped
  | running
  | syncing
  | exited
  | notRunning
  deriving DecidableEq, Repr

namespace TargetState

def all : List TargetState :=
  [.created, .initialized, .stopped, .running, .syncing, .exited, .notRunning]

def name : TargetState → String
  | .created => "CREATED"
  | .initialized => "INITIALIZED"
  | .stopped => "STOPPED"
  | .running => "RUNNING"
  | .syncing => "SYNCING"
  | .exited => "EXITED"
  | .notRunning => "NOT_RUNNING"

def code : TargetState → Nat
  | .created => 0x1
  | .initialized => 0x2
  | .stopped => 0x4
  | .running => 0x8
  | .syncing => 0x10
  | .exited => 0x20
  | .notRunning => 0x2 ||| 0x4

theorem mem_all (s : TargetState) : s ∈ all := by
  cases s <;> simp [all]

def ofCode (v : Value) : Except Fault TargetState :=
  match all.find? fun s => Value.same v (.int s.code) with
  | some s => .ok s
  | Option.none => .error (.notAState v)

def ofName (v : Value) : Except Fault TargetState :=
  match v with
  | .str n => match all.find? fun s => s.name == n with
    | some s => .ok s
    | Option.none => .error (.missingKey v)
  | _ => if v.hashable then .error (.missingKey v) else .error (.unhashable v.unhashableKind)

end TargetState

end DebugBridge
