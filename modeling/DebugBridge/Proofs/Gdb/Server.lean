import DebugBridge.Proofs.Injection
import DebugBridge.Proofs.Machine
import DebugBridge.Proofs.Gdb.Page
/-!
# A gdb server that keeps its process faithfully

The model behind the gdb adapter: a server holding a stopped process. It reads and stores
registers and bytes, keeps a table of breakpoints and reports its run state. Continuing runs
any function `program` of the machine up to the newest breakpoint, and deletes that
breakpoint when it is temporary. Each operation that code injection uses gets its run
against the server here.
-/

namespace DebugBridge

set_option autoImplicit false

structure GdbBreakpoint where
  address : Int
  temporary : Bool
  deriving DecidableEq

/-- A gdb server over a stopped process: the process, the breakpoints newest first, and the
run state it reports. -/
structure GdbServer where
  machine : Machine
  breakpoints : List GdbBreakpoint
  status : Int

namespace GdbServer

/-- Continuing: the code runs up to the newest breakpoint, which is deleted if temporary. -/
def resume (program : Machine → Machine) (server : GdbServer) : GdbServer :=
  { server with
    machine := program server.machine
    breakpoints := match server.breakpoints with
      | hit :: rest => if hit.temporary then rest else hit :: rest
      | [] => [] }

def temporaryOf (options : List (String × Value)) : Bool :=
  ((Value.lookup "temporary" options).map Value.truthy).getD false

def answer (program : Machine → Machine) (call : Call) (server : GdbServer) :
    Except Fault (Value × GdbServer) :=
  match call.path, call.args with
  | "target.read_register", [.str name] => .ok (.int (server.machine.registers name), server)
  | "target.write_register", [.str name, .int value] =>
      .ok (.bool true, { server with machine := server.machine.setRegister name value })
  | "target.read_memory", [.int address, _, .int count] =>
      .ok (.bytes (server.machine.bytesAt address count.toNat), server)
  | "target.write_memory", [.int address, _, .bytes bytes] =>
      .ok (.bool true, { server with machine := server.machine.writeBytes address bytes })
  | "target.set_breakpoint", [.int address] =>
      .ok (.bool true,
        { server with breakpoints := ⟨address, temporaryOf call.options⟩ :: server.breakpoints })
  | "target.get_status", [] => .ok (.int server.status, server)
  | "target.cont", [] => .ok (.none, server.resume program)
  | "target.wait", [] => .ok (.none, server)
  | path, _ => .error (.raised ("the server cannot answer " ++ path))

def link (program : Machine → Machine) : Link (Run GdbServer) where
  send call := fun server => answer program call server
  print _ := pure ()

variable (program : Machine → Machine) (server : GdbServer)

theorem readRegister_run (name : String) :
    (GdbTarget.readRegister (link program) (.str name)).run server =
      .ok (.int (server.machine.registers name), server) := by
  unfold GdbTarget.readRegister rescue
  rw [liftFault_interpolate_bind rfl]
  have sent : ((link program).send { path := "target.read_register", args := [.str name] }).run
      server = .ok (.int (server.machine.registers name), server) := rfl
  rw [run_bind_ok (run_tryCatch_ok sent)]
  rfl

theorem readMemory_run {t : GdbTarget} {k : Nat} (page : t.pageSize = .int (2 ^ k))
    (address count : Int) :
    (GdbTarget.readMemory (link program) t (.int address) (.int count)).run server =
      .ok (.bytes (server.machine.bytesAt address
        (min count (nextPage (2 ^ k) address - address)).toNat), server) := by
  unfold GdbTarget.readMemory rescue
  rw [liftFault_interpolate_bind rfl, readCount_int page]
  apply run_tryCatch_ok
  rw [run_bind_ok run_liftFault_ok]
  rfl

theorem writeMemory_run (address : Int) (bytes : List UInt8) :
    (GdbTarget.writeMemory (link program) (.int address) (.bytes bytes)).run server =
      .ok (.none, { server with machine := server.machine.writeBytes address bytes }) := by
  unfold GdbTarget.writeMemory rescue
  apply run_tryCatch_ok
  have sent : ((link program).send
      { path := "target.write_memory", args := [.int address, .int 1, .bytes bytes],
        options := [("raw", .bool true)] }).run server =
      .ok (.bool true, { server with machine := server.machine.writeBytes address bytes }) := rfl
  rw [run_bind_ok sent]
  rfl

theorem writeRegister_run (name : String) (value : Int) :
    (GdbTarget.writeRegister (link program) (.str name) (.int value)).run server =
      .ok (.none, { server with machine := server.machine.setRegister name value }) := by
  unfold GdbTarget.writeRegister rescue
  rw [Value.renderLimited_str name, run_bind_ok run_liftFault_ok,
    Value.hexDigits_int value,
    run_bind_ok run_liftFault_ok]
  apply run_tryCatch_ok
  have sent : ((link program).send
      { path := "target.write_register", args := [.str name, .int value] }).run server =
      .ok (.bool true, { server with machine := server.machine.setRegister name value }) := rfl
  rw [run_bind_ok sent]
  rfl

theorem setBreakpoint_run (address : Int) :
    (GdbTarget.setBreakpoint (link program) (.int address) [("temporary", .bool true)]).run
      server = .ok (.none, { server with breakpoints := ⟨address, true⟩ :: server.breakpoints }) := by
  unfold GdbTarget.setBreakpoint
  rw [liftFault_interpolate_bind rfl]
  have sent : ((link program).send
      { path := "target.set_breakpoint", args := [.int address],
        options := [("temporary", .bool true)] }).run server =
      .ok (.bool true, { server with breakpoints := ⟨address, true⟩ :: server.breakpoints }) := rfl
  rw [run_bind_ok sent]
  rfl

theorem run_run (notRunning : server.status ≠ TargetState.running.code) :
    (GdbTarget.run (link program)).run server = .ok (.none, server.resume program) := by
  have status : ((link program).send { path := "target.get_status" }).run server =
      .ok (.int server.status, server) := rfl
  have stopped : Value.same (.int server.status) (.int TargetState.running.code) = false := by
    simpa [Value.same, Value.sameScalar, Value.asInt?] using notRunning
  unfold GdbTarget.run GdbTarget.isRunning
  rw [bind_assoc, run_bind_ok status]
  simp only [pure_bind, stopped, Value.truthy, Bool.not_false, if_true]
  rfl

end GdbServer

end DebugBridge
