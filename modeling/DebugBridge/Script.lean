import DebugBridge.Link
import DebugBridge.Value.Encoding
/-!
# A scripted backend

A backend that answers from a queue of replies per key. A call takes the first reply of its
queue while more than one is left, and the last reply answers every later call; a missing
or empty queue gives the default for the call's path. A reply with the entry `$raise` fails
the call with that entry's text; any other is decoded when used. Every call is recorded, and
so is what the adapter prints. gdb and IDA calls are keyed by path, radare2 commands by the
kind of output and the command text.
-/

namespace DebugBridge

set_option autoImplicit false

inductive Backend where
  | none
  | gdb
  | radare
  | ida
  deriving DecidableEq, Repr

namespace Backend

def key (b : Backend) (c : Call) : String :=
  if b == .radare && (c.path == "cmd" || c.path == "cmdj") then
    c.path ++ ":" ++ (c.args.headD .none).render
  else c.path

/-- The reply to a call whose queue is missing or empty. -/
def defaultReply (b : Backend) (path : String) : Value :=
  match b with
  | .gdb =>
    if path == "target.read_memory" then .bytes []
    else if path == "target.read_register" then .int 0
    else if path == "target.get_status" then .int 4
    else if path == "target.protocols.memory.get_mappings" then .list [.bool true, .str ""]
    else if ["target.write_memory", "target.write_register", "target.set_breakpoint",
        "target.remove_breakpoint", "target.set_watchpoint"].contains path then .bool true
    else .none
  | .radare => if path == "cmd" then .str "" else .none
  | .ida =>
    if path == "idc._get_modules" then .list []
    else if path == "idaapi.get_imagebase" then .int 0x400000
    else if path == "inf.is_64bit" then .bool true
    else .none
  | .none => .none

end Backend

/-- The state of a scripted backend. -/
structure Script where
  backend : Backend
  /-- Queues of replies by key. -/
  queues : List (String × List Value)
  /-- Calls made since the log was last cleared, latest first. -/
  log : List Call := []
  /-- Text printed since the log was last cleared. -/
  console : String := ""

namespace Script

def queue (s : Script) (k : String) : List Value :=
  (s.queues.find? (·.1 == k)).map (·.2) |>.getD []

def setQueue (s : Script) (k : String) (q : List Value) : Script :=
  { s with queues := s.queues.map fun e => if e.1 == k then (k, q) else e }

def take (s : Script) (k : String) : Option Value × Script :=
  match s.queue k with
  | [] => (none, s)
  | [r] => (some r, s)
  | r :: rest => (some r, s.setQueue k rest)

end Script

abbrev Scripted := ExceptT Fault (StateM Script)

/-- What a scripted reply does: fail with a text, or answer with the value it writes. -/
def replyOutcome (r : Value) : Except Fault Value :=
  match r with
  | .dict es => match Value.lookup "$raise" es with
    | some msg => .error (.raised msg.render)
    | none => r.decode
  | _ => r.decode

def scriptedSend (c : Call) : Scripted Value := do
  let s ← get
  let logged : Script := { s with log := c :: s.log }
  let (reply, next) := logged.take (s.backend.key c)
  set next
  match reply with
  | some r => liftFault (replyOutcome r)
  | none => pure (s.backend.defaultReply c.path)

def scriptedLink : Link Scripted where
  send := scriptedSend
  print text := modify fun s => { s with console := s.console ++ text }

end DebugBridge
