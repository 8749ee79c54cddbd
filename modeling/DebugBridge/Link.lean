import DebugBridge.Value.Access
/-!
# Reaching a debugger

An adapter speaks to its debugger only through a `Link`: `send` issues one call, named by a
path, with positional and keyword values, and returns the reply or fails; `print` writes to
the console. Adapters are written for any monad that can fail with a `Fault`, so the same
code runs against a scripted backend in tests and against a model of a debugger in proofs.
-/

namespace DebugBridge

set_option autoImplicit false

/-- One call to a debugger backend. -/
structure Call where
  path : String
  args : List Value := []
  options : List (String × Value) := []
  deriving Repr, Inhabited

/-- How an adapter reaches its debugger and its console. -/
structure Link (m : Type → Type) where
  send : Call → m Value
  print : String → m Unit

section

variable {m : Type → Type} [Monad m] [MonadExceptOf Fault m]

def liftFault {α : Type} : Except Fault α → m α
  | .ok a => pure a
  | .error f => throwThe Fault f

/-- Runs `body`; a fault it raises is handed to `handler`. -/
def rescue {α : Type} (body : m α) (handler : Fault → m α) : m α :=
  tryCatchThe Fault body handler

def Link.notify (link : Link m) (c : Call) : m Unit := do
  let _ ← link.send c
  pure ()

end

end DebugBridge
