import ContainerLogs.CommandLine.Reach
import ContainerLogs.Proofs.CommandLine.Sparing
import ContainerLogs.Proofs.FileTree.Making
import ContainerLogs.Proofs.Settings.Loading

/-!
Orders that are turned down. All that can be wrong with the arguments and the settings of an order is
found before its archive is opened, so a run that ends for that has touched nothing: all it may have
made is the directory in which the settings were looked for.
-/
namespace ContainerLogs

open Running (leaving)

namespace Settings

variable {tree : FileTree} {surroundings : Surroundings}

/-- To load settings is to find out where they are, and then only to read. -/
private theorem load_leaves (surroundings : Surroundings) (path : Option Path) (tree : FileTree) :
    leaving (load surroundings path tree) = leaving (pathOr surroundings path tree) := by
  cases chosen : pathOr surroundings path tree with
  | error fault after =>
    rw [load_of_unchosen chosen]
    rfl
  | ok place after =>
    rw [load_of_chosen chosen]
    repeat' split
    all_goals rfl

private theorem loadOrDefault_leaves (surroundings : Surroundings) (tree : FileTree) :
    leaving (loadOrDefault surroundings tree) = leaving (pathOr surroundings none tree) := by
  rw [← load_leaves]
  unfold loadOrDefault
  split
  · rename_i failed
    rw [failed]
    split <;> rfl
  · rfl

theorem loadOrDefault_of_named {text : String}
    (named : surroundings.environment.get? pathVariable = some text) (tree : FileTree) :
    leaving (loadOrDefault surroundings tree) = tree := by
  rw [loadOrDefault_leaves]
  simp only [pathOr, defaultPath, named]
  rfl

theorem loadOrDefault_onlyMade (surroundings : Surroundings) (tree : FileTree) :
    tree.OnlyMade (ownDirectory surroundings) (leaving (loadOrDefault surroundings tree)) := by
  cases named : surroundings.environment.get? pathVariable with
  | some text =>
    rw [loadOrDefault_of_named named]
    exact .refl _ tree
  | none =>
    have only := tree.makeDirectories_onlyMade surroundings.process (ownDirectory surroundings)
      directoryMode
    rw [loadOrDefault_leaves]
    rcases made : tree.makeDirectories surroundings.process (ownDirectory surroundings)
      directoryMode with ⟨after, _ | refusal⟩
    · have done : makeDirectories surroundings.process (ownDirectory surroundings) directoryMode
          tree = .ok () after := by
        simp [makeDirectories, made]
      rw [made] at only
      simp only [pathOr, defaultPath, named]
      rw [Running.bind_of_ok done]
      exact only
    · rw [made] at only
      rw [pathOr_of_refused named made]
      exact only

end Settings

namespace CommandLine

namespace Running

open ContainerLogs.Running

variable {machine : Machine} {run before after between : Run} {ending : Ending}

private theorem loadSettings_leaves (machine : Machine) (run : Run) :
    (leaving (loadSettings machine run)).tree =
      leaving (Settings.loadOrDefault machine.surroundings run.tree) := by
  unfold loadSettings storing
  cases Settings.loadOrDefault machine.surroundings run.tree <;> rfl

private theorem fault_of_shown {markup : String}
    (failed : shown markup before = .error ending after) :
    ∃ fault, ending = .fault fault := by
  unfold shown at failed
  cases text : Console.Markup.shown markup with
  | error fault =>
    rw [text] at failed
    cases failed
    exact ⟨_, rfl⟩
  | ok text' =>
    rw [text] at failed
    cases failed

/-- Printing fails only for markup that cannot be shown. -/
theorem fault_of_say {stream : Stream} {markup : String}
    (failed : say machine stream markup before = .error ending after) :
    ∃ fault, ending = .fault fault := by
  unfold say at failed
  rcases error_of_bind failed with unshown | ⟨_, _, -, impossible⟩
  · exact fault_of_shown unshown
  · cases impossible

/-- A fault that is reported ends the run with the code of its category. -/
theorem code_of_reporting {α : Type} {action : Running α} {fault : Fault} {code : Nat}
    (failed : action before = .error (.fault fault) between)
    (reported : reporting machine action before = .error (.exit code) after) :
    ∃ category, fault.category? = some category ∧ code = category.exitCode := by
  unfold reporting at reported
  simp only [failed] at reported
  cases known : fault.category? with
  | none =>
    rw [known] at reported
    cases reported
  | some category =>
    refine ⟨category, rfl, ?_⟩
    simp only [known] at reported
    cases said : report machine category fault.report between with
    | ok _ told =>
      rw [bind_of_ok said] at reported
      cases reported
      rfl
    | error ending told =>
      rw [bind_of_error said] at reported
      obtain ⟨other, rfl⟩ := fault_of_say said
      cases reported

theorem reporting_of_ok {α : Type} {action : Running α} {a : α}
    (made : action before = .ok a after) : reporting machine action before = .ok a after := by
  unfold reporting
  simp only [made]

/-- An action that failed is reported, and what it left stays. -/
theorem reporting_of_error {α : Type} {action : Running α}
    (failed : action before = .error ending between) : ∃ ending' after,
    reporting machine action before = .error ending' after ∧ after.tree = between.tree := by
  have leaves := reporting_leaves machine action before
  rw [failed] at leaves
  cases reported : reporting machine action before with
  | error ending' after =>
    rw [reported] at leaves
    exact ⟨ending', after, rfl, leaves⟩
  | ok a after =>
    unfold reporting at reported
    simp only [failed] at reported
    cases ending with
    | exit code => cases reported
    | fault fault =>
      simp only at reported
      split at reported
      · obtain ⟨_, _, -, impossible⟩ := ok_of_bind reported
        cases impossible
      · cases reported

private theorem given_eq_ok {options : List OptionForm} {order : Order} {help : String}
    {arguments : List String} {found : Given}
    (made : given options order help arguments before = .ok found after) :
    sortArguments options order arguments = .ok found := by
  unfold given at made
  cases sorted : sortArguments options order arguments with
  | error fault =>
    rw [sorted] at made
    cases made
  | ok found' =>
    simp only [sorted] at made
    split at made
    · cases made
    · cases made
      rfl

end Running

namespace AggregateOrder

open ContainerLogs.Running Running

variable {order : AggregateOrder} {machine : Machine} {settings : Settings} {plan : Plan}
  {run before after : Run} {ending : Ending}

private theorem archivePath_still (order : AggregateOrder) (machine : Machine) (settings : Settings)
    (owner : String) (containers : List ContainerId) :
    Still (order.archivePath machine settings owner containers) := by
  unfold archivePath
  split
  · exact pure_still _
  · split
    · exact ofExcept_still _ _
    · exact refuse_still _

/-- Checking an order changes nothing. -/
private theorem plan_still (order : AggregateOrder) (machine : Machine) (settings : Settings) :
    Still (order.plan machine settings) := by
  unfold AggregateOrder.plan
  apply Still.bind
  · intro run
    rw [mapM_ofExcept]
    exact ofExcept_still _ _ run
  · intro containers
    dsimp only
    generalize (if order.roots.isEmpty then settings.aggregation.logRoots else order.roots) = roots
    split
    · exact refuse_still _
    · intro run
      rw [get_bind]
      exact Still.bind (archivePath_still order machine settings _ containers)
        (fun _ => pure_still _) run

/-- Every container of an order that passed the checks is one. -/
private theorem parses_of_plan (planned : order.plan machine settings before = .ok plan after) :
    ∀ text ∈ order.containers, ∃ id, ContainerId.parse text = .ok id := by
  unfold AggregateOrder.plan at planned
  obtain ⟨containers, between, parsed, -⟩ := ok_of_bind planned
  rw [mapM_ofExcept] at parsed
  cases read : order.containers.mapM ContainerId.parse with
  | error fault =>
    rw [read] at parsed
    cases parsed
  | ok ids => exact forall_ok_of_mapM read

namespace Plan

/-- Once the checks are passed, only the writing of the archive fails. -/
theorem fault_of_write (failed : plan.write machine before = .error ending after) :
    ∃ fault, ending = .fault (.writing fault) := by
  unfold write at failed
  rcases error_of_bind failed with uncreated | ⟨writer, between, -, unfilled⟩
  · unfold create at uncreated
    split at uncreated
    · cases uncreated
    · cases uncreated
      exact ⟨_, rfl⟩
  · split at unfilled
    · cases unfilled
    · cases unfilled
      exact ⟨_, rfl⟩

end Plan

theorem fault_of_printTable {archive : Path} {tallies : List Tally}
    (failed : printTable machine archive tallies before = .error ending after) :
    ∃ fault, ending = .fault fault := by
  unfold printTable at failed
  rcases error_of_bind failed with unshown | ⟨title, between, -, unprinted⟩
  · exact fault_of_shown unshown
  · rcases error_of_bind unprinted with impossible | ⟨_, between, -, unsaid⟩
    · cases impossible
    · split at unsaid
      · exact fault_of_say unsaid
      · cases unsaid

/-- What an order does before it tells of it. -/
def carryOut (order : AggregateOrder) (machine : Machine) : Running (Path × List Tally) := do
  let settings ← loadSettings machine
  let plan ← order.plan machine settings
  let tallies ← plan.write machine
  pure (plan.archive, tallies)

theorem execute_eq (order : AggregateOrder) (machine : Machine) : order.execute machine = (do
    let (archive, tallies) ← reporting machine (order.carryOut machine)
    if order.asJson then print .output ((document archive tallies).indented ++ "\n")
    else printTable machine archive tallies) :=
  rfl

private theorem leaving_execute_of_error {stopped : Run}
    (failed : order.carryOut machine before = .error ending stopped) :
    (leaving (order.execute machine before)).tree = stopped.tree := by
  obtain ⟨ending', after, reported, same⟩ := reporting_of_error failed
  rw [execute_eq, bind_of_error reported]
  exact same

/-- An order that passed the checks does not end in a usage error. -/
private theorem code_of_execute {code : Nat} {between ready : Run}
    (loaded : loadSettings machine before = .ok settings between)
    (planned : order.plan machine settings between = .ok plan ready)
    (ended : order.execute machine before = .error (.exit code) after) : code ≠ usageCode := by
  rw [execute_eq] at ended
  rcases error_of_bind ended with unwritten | ⟨⟨archive, tallies⟩, between, -, unprinted⟩
  -- Behind the checks an order ends with the fault of a write, which has a code of its own, or for
  -- text that cannot be shown.
  · cases written : plan.write machine ready with
    | ok tallies done =>
      have made : order.carryOut machine before = .ok (plan.archive, tallies) done := by
        rw [carryOut, bind_of_ok loaded, bind_of_ok planned, bind_of_ok written]
        rfl
      rw [reporting_of_ok made] at unwritten
      cases unwritten
    | error ending stopped =>
      obtain ⟨fault, rfl⟩ := plan.fault_of_write written
      have failed : order.carryOut machine before = .error (.fault (.writing fault)) stopped := by
        rw [carryOut, bind_of_ok loaded, bind_of_ok planned, bind_of_error written]
      obtain ⟨category, known, rfl⟩ := code_of_reporting failed unwritten
      cases fault <;> cases known <;> decide
  · simp only at unprinted
    split at unprinted
    · cases unprinted
    · obtain ⟨fault, foreign⟩ := fault_of_printTable unprinted
      cases foreign

section Spares

variable {holds : FileTree → FileTree → Prop} (loads : Spares holds (loadSettings machine))
include loads

/-- An order that does not pass the checks does to the file tree what loading the settings does. -/
private theorem execute_spares
    (rejected : (∃ after, order.execute machine before = .error (.exit usageCode) after) ∨
      ∃ text ∈ order.containers, ∀ id, ContainerId.parse text ≠ .ok id) :
    holds before.tree (leaving (order.execute machine before)).tree := by
  have loading := loads before
  cases loaded : loadSettings machine before with
  | error ending stopped =>
    rw [leaving_execute_of_error (bind_of_error loaded _)]
    rwa [loaded] at loading
  | ok settings between =>
    rw [loaded] at loading
    cases planned : order.plan machine settings between with
    | error ending stopped =>
      have still := plan_still order machine settings between
      rw [planned] at still
      have failed : order.carryOut machine before = .error ending stopped := by
        rw [carryOut, bind_of_ok loaded, bind_of_error planned]
      rw [leaving_execute_of_error failed]
      exact still ▸ loading
    | ok plan ready =>
      -- The checks were passed, so the order was not turned down.
      rcases rejected with ⟨after, ended⟩ | ⟨text, among, malformed⟩
      · exact absurd rfl (code_of_execute loaded planned ended)
      · obtain ⟨id, parsed⟩ := parses_of_plan planned text among
        exact absurd parsed (malformed id)

end Spares

end AggregateOrder

namespace Program

open ContainerLogs.Running Running

variable {machine : Machine} {arguments : List String} {tree : FileTree} {before after : Run}
  {found : Call}

/-- The arguments order an archive of containers, of which one is not called by a container's name. -/
def OrdersMalformed (arguments : List String) : Prop :=
  ∃ given, called? arguments = some (.aggregate, given) ∧
    ∃ text ∈ given.operands, ∀ id, ContainerId.parse text ≠ .ok id

private theorem called?_of_call {given : Given} (called : call arguments before = .ok found after)
    (sorted : sortArguments found.command.options .mixed found.arguments = .ok given) :
    called? arguments = some (found.command, given) := by
  obtain ⟨⟨options, operands⟩, name, sorted', rfl, named⟩ := sorted_of_call called
  simp [called?, sorted', named, sorted, Except.toOption]

theorem containers_of_ofGiven {given : Given} {order : AggregateOrder}
    (made : AggregateOrder.ofGiven given = .ok order) : order.containers = given.operands := by
  unfold AggregateOrder.ofGiven at made
  split at made
  · cases made
  · cases made
    rfl

section Spares

variable {holds : FileTree → FileTree → Prop} (refl : ∀ tree, holds tree tree)
  (loads : Spares holds (loadSettings machine))
include refl loads

private theorem perform_spares (isAggregate : found.command = .aggregate)
    (rejected : (∃ after, perform machine found before = .error (.exit usageCode) after) ∨
      ∀ given, sortArguments found.command.options .mixed found.arguments = .ok given →
        ∃ text ∈ given.operands, ∀ id, ContainerId.parse text ≠ .ok id) :
    holds before.tree (leaving (perform machine found before)).tree := by
  unfold perform at rejected ⊢
  simp only [isAggregate] at rejected ⊢
  have still := given_still Command.aggregate.options .mixed Command.aggregate.help found.arguments
    before
  cases sorting : Running.given Command.aggregate.options .mixed Command.aggregate.help
      found.arguments before with
  | error ending stopped =>
    rw [sorting] at still
    rw [bind_of_error sorting]
    exact still ▸ refl before.tree
  | ok given between =>
    rw [sorting] at still
    rw [bind_of_ok sorting] at rejected ⊢
    have same : before.tree = between.tree := still
    rw [same]
    cases made : AggregateOrder.ofGiven given with
    | error fault => exact (refuse_still fault).spares refl between
    | ok order =>
      simp only [made] at rejected ⊢
      apply order.execute_spares loads
      rw [containers_of_ofGiven made]
      exact rejected.imp_right fun malformed => malformed given (given_eq_ok sorting)

variable (trans : ∀ ⦃before between after⦄, holds before between → holds between after →
  holds before after)
include trans

private theorem configureLog_spares (found : Call) : Spares holds (configureLog machine found) := by
  unfold configureLog
  apply Spares.bind _ _ trans
  · apply Spares.reporting
    split
    · exact (ofExcept_still _ _).spares refl
    · exact loads
  · intro settings run
    exact refl run.tree

/-- A run that is turned down does to the file tree what loading the settings does. -/
private theorem running_spares
    (isAggregate : ∀ found ready, call arguments { tree } = .ok found ready →
      found.command = .aggregate)
    (rejected : (∃ after, running machine arguments { tree } = .error (.exit usageCode) after) ∨
      OrdersMalformed arguments) :
    holds tree (leaving (running machine arguments { tree })).tree := by
  have finding := call_still arguments { tree }
  unfold running at rejected ⊢
  cases called : call arguments { tree } with
  | error ending stopped =>
    rw [called] at finding
    rw [bind_of_error called]
    exact finding ▸ refl tree
  | ok found ready =>
    rw [called] at finding
    have same : tree = ready.tree := finding
    rw [bind_of_ok called] at rejected ⊢
    have configuring := configureLog_spares refl loads trans found ready
    rw [← same] at configuring
    cases configured : configureLog machine found ready with
    | error ending stopped =>
      rw [configured] at configuring
      rw [bind_of_error configured]
      exact configuring
    | ok _ between =>
      rw [configured] at configuring
      rw [bind_of_ok configured] at rejected ⊢
      apply trans configuring
      apply perform_spares refl loads (isAggregate found ready called)
      refine rejected.imp_right ?_
      rintro ⟨given, ordered, malformed⟩ given' sorted
      rw [called?_of_call called sorted] at ordered
      obtain ⟨-, rfl⟩ := Prod.mk.inj (Option.some.inj ordered)
      exact malformed

end Spares

private theorem tree_run (machine : Machine) (arguments : List String) (tree : FileTree) :
    (run machine arguments tree).run.tree = (leaving (running machine arguments { tree })).tree := by
  unfold run
  cases running machine arguments { tree } <;> rfl

private theorem running_of_usageCode (ended : (run machine arguments tree).exitCode = usageCode) :
    ∃ after, running machine arguments { tree } = .error (.exit usageCode) after := by
  unfold run at ended
  cases made : running machine arguments { tree } with
  | ok _ after =>
    rw [made] at ended
    cases ended
  | error ending after =>
    rw [made] at ended
    cases ending with
    | exit code =>
      cases ended
      exact ⟨after, rfl⟩
    | fault fault => cases ended

/-- A run to make an archive that ends in a usage error, or that is given what is not a container,
leaves the file tree alone: all that may be new are the directory of the settings and its ancestors,
and not even these if the settings file is named in the environment. In particular any file there
was, such as an archive of the name that was ordered, has its bytes and mode. -/
theorem rejected_order_spares (machine : Machine) (arguments : List String) (tree : FileTree)
    (isAggregate : ∀ found ready, call arguments { tree } = .ok found ready →
      found.command = .aggregate)
    (rejected : (run machine arguments tree).exitCode = usageCode ∨ OrdersMalformed arguments) :
    tree.OnlyMade (Settings.ownDirectory machine.surroundings) (run machine arguments tree).run.tree ∧
      (machine.environment.get? Settings.pathVariable ≠ none →
        (run machine arguments tree).run.tree = tree) ∧
      ∀ text node, tree.stat text = .ok node → node.isDirectory = false →
        (run machine arguments tree).run.tree.stat text = .ok node := by
  have turned := rejected.imp_left running_of_usageCode
  -- The same argument serves twice, for what loading the settings does at most and for what it does
  -- when it has no directory to make.
  have only : tree.OnlyMade (Settings.ownDirectory machine.surroundings)
      (run machine arguments tree).run.tree := by
    rw [tree_run]
    apply running_spares (FileTree.OnlyMade.refl _) _ _ isAggregate turned
    · intro before
      rw [loadSettings_leaves]
      exact Settings.loadOrDefault_onlyMade _ _
    · intro before between after
      exact FileTree.OnlyMade.trans
  refine ⟨only, ?_, fun text node => only.keeps.stat⟩
  intro named
  obtain ⟨place, named⟩ := Option.ne_none_iff_exists'.1 named
  rw [tree_run]
  symm
  apply running_spares (fun _ => rfl) _ (fun _ _ _ => Eq.trans) isAggregate turned
  intro before
  rw [loadSettings_leaves]
  exact (Settings.loadOrDefault_of_named named _).symm

/-- A working directory with an archive. -/
def archivedTree : FileTree where
  nodes := [⟨.directory [("a.log", 1)] 0, 0, 0o755⟩, ⟨.file [104, 105], 0, 0o640⟩]
  base := 0

/-- The second container lacks its last number. -/
def cutArguments : List String :=
  ["aggregate", "--dest", "a.log", "container_1_0001_01_000001", "container_1_0001_01"]

private theorem cutArguments_malformed : OrdersMalformed cutArguments := by
  have ordered : called? cutArguments = some (.aggregate, ⟨[("--dest", "a.log")],
      ["container_1_0001_01_000001", "container_1_0001_01"]⟩) := by decide +kernel
  have unread : (ContainerId.parse "container_1_0001_01").toOption = none := by decide +kernel
  refine ⟨_, ordered, "container_1_0001_01", by decide, ?_⟩
  intro id parsed
  rw [parsed] at unread
  cases unread

private theorem cutArguments_aggregate {found : Call}
    (called : call cutArguments before = .ok found after) :
    found.command = .aggregate := by
  obtain ⟨given, name, sorted, operands, named⟩ := sorted_of_call called
  have whole : sortArguments programOptions .optionsFirst cutArguments = .ok ⟨[], cutArguments⟩ := by
    decide +kernel
  rw [whole] at sorted
  cases sorted
  obtain ⟨rfl, -⟩ := List.cons.inj operands
  exact (Option.some.inj named).symm

theorem archive_spared_by_cut_container :
    OrdersMalformed cutArguments ∧
      (run { host := ⟨[], {}⟩, home := "/", time := "", width := 80 } cutArguments
        archivedTree).run.tree.stat "a.log" = .ok ⟨.file [104, 105], 0, 0o640⟩ :=
  ⟨cutArguments_malformed,
    (rejected_order_spares _ cutArguments archivedTree (fun _ _ => cutArguments_aggregate)
      (.inr cutArguments_malformed)).2.2 "a.log" _ rfl rfl⟩

end Program

end CommandLine

end ContainerLogs
