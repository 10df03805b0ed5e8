import ContainerLogs.Proofs.CommandLine.Rejection

/-!
Runs that end well. Nothing but a wish for help or for the version ends a run early with the code of
success, so a run of a command that ends with that code went through all its steps.
-/
namespace ContainerLogs.CommandLine

open ContainerLogs.Running

namespace Running

variable {α β ε : Type} {machine : Machine}

/-- A program that ends a run early only where something is wrong. -/
def Earnest (program : Running α) : Prop :=
  ∀ before after, program before ≠ .error (.exit 0) after

private theorem earnest_of_faults {program : Running α}
    (faults : ∀ {before after : Run} {ending : Ending}, program before = .error ending after →
      ∃ fault, ending = .fault fault) : Earnest program := by
  intro before after failed
  obtain ⟨fault, foreign⟩ := faults failed
  cases foreign

private theorem Earnest.bind {program : Running α} {next : α → Running β} (first : Earnest program)
    (others : ∀ a, Earnest (next a)) : Earnest (program >>= next) := by
  intro before after failed
  rcases error_of_bind failed with early | ⟨a, between, -, late⟩
  · exact first before after early
  · exact others a between after late

private theorem pure_earnest (a : α) : Earnest (pure a) := by
  rintro before after ⟨⟩

private theorem fail_earnest (fault : Fault) : Earnest (fail fault : Running α) := by
  rintro before after ⟨⟩

private theorem print_earnest (stream : Stream) (text : String) : Earnest (print stream text) := by
  rintro before after ⟨⟩

private theorem exit_earnest {code : Nat} (failure : code ≠ 0) :
    Earnest (exit code : Running α) := by
  rintro before after ⟨⟩
  exact failure rfl

private theorem refuse_earnest (fault : UsageFault) : Earnest (refuse fault : Running α) :=
  Earnest.bind (print_earnest _ _) fun _ => exit_earnest (by decide)

private theorem ofExcept_earnest (fault : ε → Fault) (result : Except ε α) :
    Earnest (ofExcept fault result) := by
  cases result with
  | ok a => exact pure_earnest a
  | error e => exact fail_earnest _

theorem eq_ok_of_ofExcept {fault : ε → Fault} {result : Except ε α} {a : α} {before after : Run}
    (made : ofExcept fault result before = .ok a after) : result = .ok a ∧ after = before := by
  cases result with
  | ok a' =>
    cases made
    exact ⟨rfl, rfl⟩
  | error e => cases made

private theorem loadSettings_earnest (machine : Machine) : Earnest (loadSettings machine) := by
  intro before after failed
  unfold loadSettings storing at failed
  split at failed <;> cases failed

private theorem say_earnest (machine : Machine) (stream : Stream) (markup : String) :
    Earnest (say machine stream markup) :=
  earnest_of_faults fault_of_say

private theorem log_earnest (machine : Machine) (records : List LogRecord) :
    Earnest (log machine records) := by
  rintro before after ⟨⟩

theorem loadOrDefault_of_loadSettings {settings : Settings} {before after : Run}
    (loaded : loadSettings machine before = .ok settings after) :
    Settings.loadOrDefault machine.surroundings before.tree = .ok settings after.tree := by
  unfold loadSettings storing at loaded
  split at loaded
  · rename_i found
    cases loaded
    exact found
  · cases loaded

/-- A reported fault ends a run with the code of its category, which is not that of success. -/
private theorem Earnest.reporting {action : Running α} (earnest : Earnest action) :
    Earnest (reporting machine action) := by
  intro before after reported
  cases made : action before with
  | ok a between =>
    rw [reporting_of_ok made] at reported
    cases reported
  | error ending between =>
    cases ending with
    | fault fault =>
      obtain ⟨category, -, code⟩ := code_of_reporting made reported
      cases category <;> cases code
    | exit code =>
      unfold Running.reporting at reported
      simp only [made] at reported
      cases reported
      exact earnest before after made

end Running

open Running

namespace AggregateOrder

private theorem archivePath_earnest (order : AggregateOrder) (machine : Machine)
    (settings : Settings) (owner : String) (containers : List ContainerId) :
    Earnest (order.archivePath machine settings owner containers) := by
  unfold archivePath
  split
  · exact pure_earnest _
  · split
    · exact ofExcept_earnest _ _
    · exact refuse_earnest _

private theorem plan_earnest (order : AggregateOrder) (machine : Machine) (settings : Settings) :
    Earnest (order.plan machine settings) := by
  unfold AggregateOrder.plan
  apply Earnest.bind
  · intro before
    rw [mapM_ofExcept]
    exact ofExcept_earnest _ _ before
  · intro containers
    dsimp only
    generalize (if order.roots.isEmpty then settings.aggregation.logRoots else order.roots) = roots
    split
    · exact refuse_earnest _
    · intro before
      rw [get_bind]
      exact Earnest.bind (archivePath_earnest order machine settings _ containers)
        (fun _ => pure_earnest _) before

private theorem carryOut_earnest (order : AggregateOrder) (machine : Machine) :
    Earnest (order.carryOut machine) := by
  apply Earnest.bind (loadSettings_earnest machine)
  intro settings
  apply Earnest.bind (plan_earnest order machine settings)
  intro plan
  apply Earnest.bind
  · refine earnest_of_faults fun failed => ?_
    obtain ⟨fault, foreign⟩ := plan.fault_of_write failed
    exact ⟨_, foreign⟩
  · exact fun _ => pure_earnest _

private theorem execute_earnest (order : AggregateOrder) (machine : Machine) :
    Earnest (order.execute machine) := by
  rw [execute_eq]
  apply Earnest.bind (carryOut_earnest order machine).reporting
  rintro ⟨archive, tallies⟩
  dsimp only
  split
  · exact print_earnest _ _
  · exact earnest_of_faults fault_of_printTable

end AggregateOrder

namespace DumpOrder

private theorem checkArchive_earnest (archive : String) : Earnest (checkArchive archive) := by
  intro before
  unfold checkArchive
  rw [get_bind]
  cases before.tree.stat archive with
  | ok node =>
    dsimp only
    split
    · exact refuse_earnest _ before
    · split
      · exact refuse_earnest _ before
      · exact pure_earnest _ before
  | error refusal =>
    cases refusal with
    | nullInPath => exact fail_earnest _ before
    | _ => exact pure_earnest _ before

private theorem ofGiven_earnest (given : Given) : Earnest (ofGiven given) := by
  unfold ofGiven
  split
  · exact refuse_earnest _
  · rename_i archive extra _
    apply Earnest.bind (checkArchive_earnest archive)
    intro _
    apply Earnest.bind
    · cases extra with
      | nil => exact pure_earnest _
      | cons => exact refuse_earnest _
    · exact fun _ => pure_earnest _

private theorem openArchive_earnest (machine : Machine) (path : Path) :
    Earnest (openArchive machine path) := by
  intro before
  unfold openArchive
  rw [get_bind]
  cases before.tree.contentAt path.text with
  | ok bytes =>
    refine Earnest.bind (ofExcept_earnest _ _) (fun reader => ?_) before
    exact Earnest.bind (log_earnest _ _) fun _ => pure_earnest reader
  | error refusal =>
    cases refusal with
    | nullInPath => exact fail_earnest _ before
    | _ => exact Earnest.bind (say_earnest _ _ _) (fun _ => exit_earnest (by decide)) before

private theorem printRecords_earnest (order : DumpOrder) (machine : Machine) :
    Earnest (order.printRecords machine) := by
  apply Earnest.bind (openArchive_earnest machine _)
  intro reader
  dsimp only
  apply Earnest.bind (print_earnest _ _)
  intro _
  split
  · exact fail_earnest _
  · exact Earnest.bind (log_earnest _ _) fun _ => pure_earnest _

private theorem execute_earnest (order : DumpOrder) (machine : Machine) :
    Earnest (order.execute machine) := by
  apply Earnest.bind (printRecords_earnest order machine).reporting
  intro count
  split
  · split
    · exact Earnest.bind (say_earnest _ _ _) fun _ => exit_earnest (by decide)
    · exact pure_earnest _
  · exact pure_earnest _

end DumpOrder

namespace Program

variable {machine : Machine} {arguments : List String} {command : Command} {given : Given}
  {tree : FileTree}

private theorem configureLog_earnest (machine : Machine) (found : Call) :
    Earnest (configureLog machine found) := by
  unfold configureLog
  apply Earnest.bind
  · apply Earnest.reporting
    split
    · exact ofExcept_earnest _ _
    · exact loadSettings_earnest machine
  · rintro settings before after ⟨⟩

/-- Behind a command that is not on the settings themselves, the log is set up by the settings that are
loaded. -/
theorem configureLog_eq_ok_iff {found : Call} (plain : found.command ≠ .config) {before after : Run} :
    configureLog machine found before = .ok () after ↔ ∃ settings tree,
      Settings.loadOrDefault machine.surroundings before.tree = .ok settings tree ∧
        after = { before with
          tree
          log := if found.verbose then { settings.logging with level := .debug }
            else settings.logging } := by
  have loading : configureLog machine found = (do
      let settings ← Running.reporting machine (loadSettings machine)
      modify fun run => { run with
        log := if found.verbose then { settings.logging with level := .debug }
          else settings.logging }) := by
    unfold configureLog
    rw [if_neg plain]
  rw [loading]
  cases loaded : Settings.loadOrDefault machine.surroundings before.tree with
  | ok settings tree =>
    have done : loadSettings machine before = .ok settings { before with tree } := by
      simp [loadSettings, storing, loaded]
    rw [bind_of_ok (reporting_of_ok done)]
    constructor
    · rintro ⟨⟩
      exact ⟨settings, tree, rfl, rfl⟩
    · rintro ⟨_, _, ⟨⟩, rfl⟩
      rfl
  | error fault tree =>
    have failed : loadSettings machine before =
        .error (.fault (.settings fault)) { before with tree } := by
      simp [loadSettings, storing, loaded]
    obtain ⟨ending, stopped, reported, -⟩ : ∃ ending stopped, Running.reporting machine
        (loadSettings machine) before = .error ending stopped ∧ stopped.tree = tree :=
      reporting_of_error failed
    rw [bind_of_error reported]
    constructor
    · rintro ⟨⟩
    · rintro ⟨_, _, ⟨⟩, -⟩

/-- The arguments order a command with these options and operands, and ask neither for help nor for
the version. -/
structure Orders (arguments : List String) (command : Command) (given : Given) : Prop where
  called : called? arguments = some (command, given)
  plain : ∀ sorted, sortArguments programOptions .optionsFirst arguments = .ok sorted →
    ∀ option ∈ sorted.options, option.1 ≠ helpOption.name ∧ option.1 ≠ versionOption.name
  helpless : given.has helpOption.name = false

/-- Arguments that ask for no page are only sorted. -/
private theorem group_of_plain {options : List OptionForm} {sorted : Given} (page : String)
    (sorts : sortArguments options .optionsFirst arguments = .ok sorted)
    (plain : ∀ option ∈ sorted.options,
      option.1 ≠ helpOption.name ∧ option.1 ≠ versionOption.name) (run : Run) :
    group options page arguments run = .ok sorted run := by
  have nothing : sorted.options.find? (fun option =>
      option.1 = helpOption.name ∨ option.1 = versionOption.name) = none := by
    rw [List.find?_eq_none]
    intro option among
    simpa using plain option among
  unfold group showIfAsked
  simp only [sorts, nothing]
  rfl

/-- A command that is ordered is found, with its arguments. -/
private theorem Orders.call_eq (h : Orders arguments command given) : ∃ found : Call,
    found.command = command ∧ sortArguments command.options .mixed found.arguments = .ok given ∧
      ∀ run, call arguments run = .ok found run := by
  obtain ⟨called, plain, -⟩ := h
  unfold called? at called
  split at called
  · rename_i options name rest sorted
    obtain ⟨command', named, called⟩ := Option.bind_eq_some_iff.1 called
    obtain ⟨given', sorted', made⟩ := Option.bind_eq_some_iff.1 called
    cases made
    have hasArguments : arguments.isEmpty = false := by
      cases arguments with
      | nil => cases sorted
      | cons => rfl
    have found : sortArguments command.options .mixed rest = .ok given := by
      cases result : sortArguments command.options .mixed rest with
      | error fault =>
        rw [result] at sorted'
        cases sorted'
      | ok given' =>
        rw [result] at sorted'
        cases sorted'
        rfl
    refine ⟨⟨(Given.mk options (name :: rest)).has verboseOption.name, command, rest⟩, rfl, found,
      fun run => ?_⟩
    unfold call
    rw [hasArguments, if_neg (by decide), bind_of_ok (group_of_plain _ sorted (plain _ sorted) run)]
    simp only [named]
    rfl
  · cases called

private theorem Orders.given_eq (h : Orders arguments command given) {found : Call}
    (sorted : sortArguments command.options .mixed found.arguments = .ok given) (run : Run) :
    Running.given command.options .mixed command.help found.arguments run = .ok given run := by
  unfold Running.given
  simp only [sorted, h.helpless]
  rfl

/-- The rest of a run that orders an archive, once the log is set up. -/
theorem perform_aggregate (h : Orders arguments .aggregate given) {found : Call}
    (isAggregate : found.command = .aggregate)
    (sorted : sortArguments Command.aggregate.options .mixed found.arguments = .ok given)
    (machine : Machine) (run : Run) : perform machine found run =
      match AggregateOrder.ofGiven given with
      | .ok order => order.execute machine run
      | .error fault => (Running.refuse fault : Running Unit) run := by
  unfold perform
  simp only [isAggregate]
  rw [bind_of_ok (h.given_eq sorted run)]
  cases AggregateOrder.ofGiven given <;> rfl

theorem perform_dump (h : Orders arguments .dump given) {found : Call}
    (isDump : found.command = .dump)
    (sorted : sortArguments Command.dump.options .mixed found.arguments = .ok given)
    (machine : Machine) (run : Run) : perform machine found run =
      (DumpOrder.ofGiven given >>= fun order => order.execute machine) run := by
  unfold perform
  simp only [isDump]
  exact bind_of_ok (h.given_eq sorted run) _

/-- A run that ends with the code of success and was not asked for a page went through all its
steps. -/
theorem ok_of_earnest (earnest : Earnest (running machine arguments))
    (ended : (run machine arguments tree).exitCode = 0) :
    ∃ after, running machine arguments { tree } = .ok () after ∧
      (run machine arguments tree).run = after := by
  unfold Program.run at ended ⊢
  cases made : running machine arguments { tree } with
  | ok _ after => exact ⟨after, rfl, rfl⟩
  | error ending after =>
    rw [made] at ended
    cases ending with
    | fault fault => cases ended
    | exit code =>
      obtain rfl : code = 0 := ended
      exact absurd made (earnest _ _)

theorem running_of_orders (h : Orders arguments command given) (machine : Machine) :
    ∃ found : Call, found.command = command ∧
      sortArguments command.options .mixed found.arguments = .ok given ∧
      running machine arguments = (do configureLog machine found; perform machine found) := by
  obtain ⟨found, same, sorted, called⟩ := h.call_eq
  exact ⟨found, same, sorted, funext fun run => bind_of_ok (called run) _⟩

theorem aggregate_earnest (h : Orders arguments .aggregate given) (machine : Machine) :
    Earnest (running machine arguments) := by
  obtain ⟨found, isAggregate, sorted, same⟩ := running_of_orders h machine
  rw [same]
  refine Earnest.bind (configureLog_earnest machine found) fun _ before => ?_
  rw [perform_aggregate h isAggregate sorted]
  split
  · rename_i order _
    exact order.execute_earnest machine before
  · exact refuse_earnest _ before

theorem dump_earnest (h : Orders arguments .dump given) (machine : Machine) :
    Earnest (running machine arguments) := by
  obtain ⟨found, isDump, sorted, same⟩ := running_of_orders h machine
  rw [same]
  refine Earnest.bind (configureLog_earnest machine found) fun _ before => ?_
  rw [perform_dump h isDump sorted]
  exact Earnest.bind (DumpOrder.ofGiven_earnest given)
    (fun order => order.execute_earnest machine) before

end Program

end ContainerLogs.CommandLine
