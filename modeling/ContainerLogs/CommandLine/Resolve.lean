import ContainerLogs.CommandLine.Run

/-!
Showing the configured address of the service for a protocol.
-/
namespace ContainerLogs.CommandLine

structure ResolveOrder where
  protocol : ServiceProtocol
  deriving DecidableEq, Repr

namespace ResolveOrder

def ofGiven (given : Given) : Running ResolveOrder := do
  match given.operands with
  | [] => Running.refuse .missingProtocol
  | name :: extra =>
      match ServiceProtocol.ofName? name with
      | none => Running.refuse (.notProtocol name)
      | some protocol => do
          Running.refuseExtra extra
          pure ⟨protocol⟩

def execute (order : ResolveOrder) (machine : Machine) : Running Unit := do
  let address ← Running.reporting machine do
    let settings ← Running.loadSettings machine
    Running.ofExcept .service (resolveService settings.cluster (.text order.protocol.name)).1
  Running.echo .output (address.text ++ "\n")

end ResolveOrder

end ContainerLogs.CommandLine
