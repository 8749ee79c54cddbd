import DebugBridge.Fault
/-!
# Loading the package

The package always provides the abstract target. The gdb and radare2 targets are optional:
each needs some modules, in the order it loads them, and the gdb target also needs the
integer-enumeration base class to be available by name. When a need is not met, loading
that target stops there, the package logs why at level `ERROR`, and it goes on without the
target. A need of the package itself that is not met stops the whole load.

`load` takes which modules are unavailable and whether the base class is, and gives the
targets the package then provides and its log.
-/

namespace DebugBridge

set_option autoImplicit false

/-- What loading a part of the package needs. -/
inductive Need where
  /-- A module by its full name. -/
  | module (name : String)
  /-- A module inside a package: the module must not be blocked itself, and then the
  package must be available as a package. -/
  | member (name parent : String)
  /-- A name that must be defined where the part is loaded. -/
  | builtin (name : String)
  deriving Repr

structure LoadConditions where
  /-- Modules that are unavailable. -/
  blocked : List String := []
  /-- The integer-enumeration base class is defined. -/
  enumBase : Bool := true

def Need.fault (c : LoadConditions) : Need → Option Fault
  | .module n => if c.blocked.contains n then some (.moduleBlocked n) else none
  | .member n parent =>
    if c.blocked.contains n then some (.moduleBlocked n)
    else if c.blocked.contains parent then some (.notAPackage n parent)
    else none
  | .builtin n => if c.enumBase then none else some (.undefinedName n)

def firstFault (c : LoadConditions) (needs : List Need) : Option Fault :=
  needs.findSome? (Need.fault c)

/-- An optional part of the package: the name it provides and what loading it needs. -/
structure Component where
  name : String
  needs : List Need

def coreNeeds : List Need :=
  [.module "angr_targets", .member "angr_targets.concrete" "angr_targets", .module "logging"]

def coreName : String := "ConcreteTarget"

def gdbComponent : Component :=
  { name := "AvatarGDBConcreteTarget",
    needs := [.member "angr_targets.targets.avatar_gdb" "angr_targets.targets",
      .module "logging", .module "os", .module "avatar2", .module "angr.errors", .module "enum",
      .module "angr_targets.memory_map", .module "angr_targets.target_states",
      .builtin "IntEnum"] }

/-- The radare2 target; it loads the memory-map module last. -/
def radareComponent : Component :=
  { name := "R2ConcreteTarget",
    needs := [.member "angr_targets.targets.r2_target" "angr_targets.targets",
      .module "logging", .module "os", .module "base64", .module "angr.errors",
      .module "angr_targets.memory_map"] }

def components : List Component := [gdbComponent, radareComponent]

structure LoadReport where
  provided : List String
  log : List (String × String)

/-- Loads the package: the core first, then each optional target in turn. -/
def load (c : LoadConditions) : Except Fault LoadReport :=
  match firstFault c coreNeeds with
  | some f => .error f
  | none =>
    let outcomes := components.map fun comp => (comp.name, firstFault c comp.needs)
    .ok {
      provided := coreName :: outcomes.filterMap fun (n, f) => if f.isNone then some n else none,
      log := outcomes.filterMap fun (n, f) =>
        f.map fun f => ("ERROR", "Impossible to load " ++ n ++ " exception " ++ f.message) }

end DebugBridge
