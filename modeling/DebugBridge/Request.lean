import DebugBridge.Session
import DebugBridge.Package
import DebugBridge.TargetState
/-!
# Requests

A request is a table whose `kind` says what to do: describe a memory region, look up a run
state, load the package under given conditions, or run a session against a scripted
backend; `answer` gives the result or the fault. Arguments, settings and replies are
decoded where they are used (`Value.decode`), names are taken as written. A request of an
unknown kind, or without a field its kind needs, fails with a missing-key fault. A session
request reads its target kind, then its script (an empty or false value is no replies),
then its settings, which are decoded before the target is opened.
-/

namespace DebugBridge

set_option autoImplicit false

/-- The result of a request. -/
inductive Answer where
  | failed (f : Fault)
  | region (r : MemoryMap)
  | state (s : TargetState)
  | package (report : LoadReport)
  | session (report : SessionReport)

def requiredField (request : Value) (k : String) : Except Fault Value :=
  match fieldOf request k with
  | some v => .ok v
  | none => .error (.missingKey (.str k))

/-- The modules a block list names. Each entry must serve as a key; entries that are not
text name no module. -/
def blockedNames (block : Value) : Except Fault (List String) := do
  let xs ← block.items
  xs.filterMapM fun x =>
    if !x.hashable then .error (.unhashable x.unhashableKind)
    else match x with
      | .str n => .ok (some n)
      | _ => .ok none

/-- The reply queues of a script, by key: each key's replies, as a loop over its entry
visits them. -/
def queuesOf (v : Value) : Except Fault (List (String × List Value)) :=
  match v with
  | .dict es => es.mapM fun (k, r) => do
    let xs ← r.items
    pure (k, xs)
  | _ => .error (.noAttribute v.kindName "items")

def regionCallee : String := "angr_targets.memory_map.MemoryMap()"

def answer (request : Value) : Answer :=
  let kind := (fieldOf request "kind").getD .none
  let outcome : Except Fault Answer :=
    match kind with
    | .str "memory_map" => do
      let args ← ((fieldOf request "args").getD (.list [])).decode
      let xs ← spreadPositional regionCallee args
      let r ← MemoryMap.ofArgs xs
      pure (.region r)
    | .str "target_state" =>
      match fieldOf request "name" with
      | some n => .state <$> TargetState.ofName n
      | none => do
        let v ← requiredField request "value"
        let code ← v.decode
        .state <$> TargetState.ofCode code
    | .str "import_package" => do
      let blocked ← blockedNames ((fieldOf request "block").getD (.list []))
      let enumBase := ((fieldOf request "patch_intenum").getD (.bool true)).truthy
      .package <$> load { blocked, enumBase }
    | .str "session" => do
      let target ← requiredField request "target"
      let k ← targetKind target
      let script := (fieldOf request "backend").getD (.dict [])
      let replies ← queuesOf (if script.truthy then script else .dict [])
      let settings ← ((fieldOf request "init").getD (.dict [])).decode
      let ops := (fieldOf request "ops").getD (.list [])
      .session <$> runSession k settings replies ops
    | _ => .error (.missingKey (.str ("unknown kind " ++ kind.quote)))
  match outcome with
  | .ok a => a
  | .error f => .failed f

end DebugBridge
