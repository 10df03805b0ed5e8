import ContainerLogs.CommandLine.Program

/-!
The paths that a run may look at or change. Whoever runs the program on a real file system needs to
show it no more than these.
-/
namespace ContainerLogs.CommandLine.Program

/-- The settings file. -/
def settingsReach (machine : Machine) : List Path :=
  match machine.environment.get? Settings.pathVariable with
  | some path => [Path.ofText path]
  | none => [Settings.ownPath machine.surroundings]

/-- The command that arguments call, with its own arguments sorted. -/
def called? (arguments : List String) : Option (Command × Given) :=
  match sortArguments programOptions .optionsFirst arguments with
  | .ok { operands := name :: rest, .. } => do
      let command ← Command.ofName? name
      let given ← (sortArguments command.options .mixed rest).toOption
      pure (command, given)
  | _ => none

/-- The log directories of the containers, their roots, and the archive. -/
def aggregateReach (machine : Machine) (settings : Settings) (given : Given) : List Path :=
  match AggregateOrder.ofGiven given with
  | .error _ => []
  | .ok order =>
      match order.plan machine settings { tree := FileTree.empty } with
      | .error .. => []
      | .ok plan _ =>
          plan.roots ++ (plan.containers.flatMap fun container =>
            (Collector.mk plan.roots container (.fixed plan.owner)).directories) ++ [plan.archive]

/-- What a run may look at beside the settings file, once that was read. -/
def reach (machine : Machine) (arguments : List String) (tree : FileTree) : List Path :=
  match called? arguments with
  | some (.dump, given) => given.operands.map Path.ofText
  | some (.aggregate, given) =>
      match Settings.loadOrDefault machine.surroundings tree with
      | .ok settings _ => aggregateReach machine settings given
      | .error .. => []
  | _ => []

end ContainerLogs.CommandLine.Program
