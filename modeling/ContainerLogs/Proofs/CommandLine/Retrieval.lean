import ContainerLogs.Proofs.Archive.Location
import ContainerLogs.Proofs.Archive.Retrieval
import ContainerLogs.Proofs.Archive.RoundTrip
import ContainerLogs.Proofs.CommandLine.Conclusion
import ContainerLogs.Proofs.CommandLine.Failing
import ContainerLogs.Proofs.Identifier.RoundTrip

/-!
Getting containers out of the archive that an order made. A run that ended well wrote one record for
each container it was given, under the container's text in its usual form, whatever form it was given
in. A dump takes the name it is given as it stands, so it finds a container by that one form only.
-/
namespace ContainerLogs.CommandLine

open Archive (Append itemsUnder under under_ne_nil_iff blocks Retrievable)
open ContainerLogs.Running CommandLine.Running

namespace AggregateOrder

variable {order : AggregateOrder} {machine : Machine} {settings : Settings} {plan : Plan}
  {run before after : Run}

namespace Plan

/-- The append for one container of a plan. -/
def request (plan : Plan) (host : Host) (container : ContainerId) : Append where
  key := .ofContainer container
  collector := ⟨plan.roots, container, .fixed plan.owner⟩
  host := host

/-- The archive of a plan was opened in a tree, one record was appended for each container, and it was
closed. -/
def Archives (plan : Plan) (host : Host) (before after : FileTree)
    (collections : List Collection) : Prop :=
  ∃ writer made finished closed,
    Archive.Session.start host.process {} plan.archive plan.owner { tree := before } =
      .ok writer made ∧
    (plan.containers.map (plan.request host)).mapM Append.perform ⟨made.tree, writer, []⟩ =
      .ok collections finished ∧
    Archive.Session.close finished = .ok () closed ∧ closed.tree = after

variable {host : Host} {session finished : Archive.Session} {tallies : List Tally}

/-- What is made of the collections is made after they were all had. -/
private theorem performs_of_appends (containers : List ContainerId)
    (made : containers.mapM (plan.appendContainer host) session = .ok tallies finished) :
    ∃ collections, (containers.map (plan.request host)).mapM Append.perform session =
      .ok collections finished := by
  induction containers generalizing session tallies with
  | nil =>
    cases made
    exact ⟨[], rfl⟩
  | cons container containers ih =>
    rw [List.mapM_cons] at made
    obtain ⟨tally, between, appended, made⟩ := ok_of_bind made
    obtain ⟨others, finished', rest, made⟩ := ok_of_bind made
    cases made
    obtain ⟨collection, between', performed, told⟩ := ok_of_bind appended
    cases told
    obtain ⟨collections, done⟩ := ih rest
    refine ⟨collection :: collections, ?_⟩
    rw [List.map_cons, List.mapM_cons]
    refine (bind_of_ok performed _).trans ?_
    rw [bind_of_ok done]
    rfl

private theorem ok_of_fill (filled : plan.fill host session = .ok tallies finished) :
    ∃ between, plan.appends host session = .ok tallies between ∧
      Archive.Session.close between = .ok () finished := by
  cases appended : plan.appends host session with
  | error fault between =>
    rw [fill_of_error appended] at filled
    split at filled <;> cases filled
  | ok tallies' between =>
    have closing := Archive.Session.close_eq between
    rw [fill_of_ok appended] at filled
    split at filled <;> rename_i fails
    · cases filled
    · cases filled
      rw [if_neg fails] at closing
      exact ⟨between, rfl, closing⟩

private theorem archives_of_write (written : plan.write machine before = .ok tallies after) :
    ∃ collections, plan.Archives machine.host before.tree after.tree collections := by
  rw [write_eq] at written
  obtain ⟨writer, between, created, filled⟩ := ok_of_bind written
  unfold create at created
  split at created
  · rename_i writer' made started
    cases created
    unfold writeTo at filled
    split at filled
    · rename_i tallies' session done
      cases filled
      obtain ⟨finished, appended, closing⟩ := ok_of_fill done
      obtain ⟨collections, performed⟩ := performs_of_appends _ appended
      exact ⟨collections, writer, made, finished, session, started, performed, closing, rfl⟩
    · cases filled
  · cases created

end Plan

/-- The place of an archive is told without a look at anything, and in its usual form. -/
private theorem archivePath_eq_ok {owner : String} {containers : List ContainerId} {archive : Path}
    (located : order.archivePath machine settings owner containers before = .ok archive after) :
    archive.Tidy ∧ after = before := by
  unfold archivePath at located
  by_cases placed : order.destination ≠ ""
  · rw [if_pos placed] at located
    cases located
    exact ⟨Path.tidy_ofText _, rfl⟩
  · rw [if_neg placed] at located
    generalize (containers.map (·.application.text)).eraseDups = applications at located
    match applications with
    | [application] =>
      obtain ⟨path, rfl⟩ := eq_ok_of_ofExcept located
      obtain ⟨-, -, base, expanded, rfl⟩ := AggregationSettings.archivePath_eq_ok_iff.1 path
      exact ⟨((Path.tidy_ofText _).expandHome expanded).archiveOf _ _ _, rfl⟩
    | [] => cases located
    | _ :: _ :: _ => cases located

/-- What an order comes down to: the containers that its texts name, the owner and the roots that are
given or those by default, and the place of the archive. -/
private theorem plan_eq_ok (planned : order.plan machine settings before = .ok plan after) :
    order.containers.mapM ContainerId.parse = .ok plan.containers ∧
      plan.owner = order.expectedOwner machine.host before.tree.user ∧
      plan.roots = (if order.roots.isEmpty then settings.aggregation.logRoots
        else order.roots).map Path.ofText ∧
      order.archivePath machine settings plan.owner plan.containers before = .ok plan.archive after := by
  unfold AggregateOrder.plan at planned
  obtain ⟨containers, between, parsed, made⟩ := ok_of_bind planned
  rw [CommandLine.Running.mapM_ofExcept] at parsed
  obtain ⟨read, rfl⟩ := eq_ok_of_ofExcept parsed
  clear planned
  dsimp only at made
  generalize (if order.roots.isEmpty then settings.aggregation.logRoots else order.roots) = roots
    at made ⊢
  split at made
  · cases made
  · rw [get_bind] at made
    obtain ⟨archive, ready, located, made⟩ := ok_of_bind made
    cases made
    exact ⟨read, rfl, rfl, located⟩

private theorem printTable_still (machine : Machine) (archive : Path) (tallies : List Tally) :
    Still (printTable machine archive tallies) := by
  apply Still.bind (shown_still _)
  intro title
  apply Still.bind (print_still _ _)
  intro _
  split
  · exact say_still _ _ _
  · exact pure_still _

/-- An order that is carried out makes the archive of its plan. -/
private theorem archives_of_execute (executed : order.execute machine before = .ok () after) :
    ∃ settings plan ready collections, loadSettings machine before = .ok settings ready ∧
      order.plan machine settings ready = .ok plan ready ∧
      plan.Archives machine.host ready.tree after.tree collections := by
  rw [execute_eq] at executed
  obtain ⟨⟨archive, tallies⟩, done, reported, printed⟩ := ok_of_bind executed
  have printing : Still (if order.asJson then
      print .output ((document archive tallies).indented ++ "\n")
      else printTable machine archive tallies) := by
    split
    · exact print_still _ _
    · exact printTable_still machine archive tallies
  have still := printing done
  dsimp only at printed
  rw [printed] at still
  cases made : order.carryOut machine before with
  | error ending stopped =>
    obtain ⟨_, _, failed, -⟩ : ∃ ending' after, reporting machine (order.carryOut machine) before =
        .error ending' after ∧ after.tree = stopped.tree := reporting_of_error made
    rw [failed] at reported
    cases reported
  | ok result done' =>
    rw [reporting_of_ok made] at reported
    cases reported
    obtain ⟨settings, loadedRun, loaded, made⟩ := ok_of_bind made
    obtain ⟨plan, ready, planned, made⟩ := ok_of_bind made
    obtain ⟨_, _, written, made⟩ := ok_of_bind made
    cases made
    obtain ⟨-, -, -, located⟩ := plan_eq_ok planned
    obtain ⟨-, rfl⟩ := archivePath_eq_ok located
    obtain ⟨collections, archives⟩ := Plan.archives_of_write written
    exact ⟨settings, plan, ready, collections, loaded, planned, still ▸ archives⟩

end AggregateOrder

namespace DumpOrder

variable {machine : Machine} {run after : Run} {archive : Path} {name text : String}
  {records : List (String × List Archive.Item)} {given : Given} {number : Nat}

private theorem ofGiven_of_readable (operands : given.operands = [text])
    (readable : run.tree.openForReading text = .ok number) :
    ofGiven given run = .ok ⟨text, given.value? containerOption.name⟩ run := by
  obtain ⟨node, found, noDirectory, permitted⟩ := FileTree.stat_of_openForReading readable
  have checked : checkArchive text run = .ok () run := by
    unfold checkArchive
    rw [get_bind, found]
    simp [noDirectory, permitted]
  unfold ofGiven
  rw [operands]
  exact bind_of_ok checked _

/-- The records of a name are printed and counted. -/
private theorem printRecords_of_retrievable (tidy : archive.Tidy)
    (held : Retrievable run.tree archive.text records) : ∃ errors,
      printRecords ⟨archive.text, some name⟩ machine run = .ok (under name records).length
        { run with output := run.output ++ blocks (under name records), errors } := by
  obtain ⟨bytes, reader, content, opened, shown⟩ := held.shown
  obtain ⟨out, counted⟩ := Prod.mk.inj (shown name)
  have sound : (reader.dump (some name)).fault = none ∧
      (reader.dump (some name)).count = (under name records).length := by
    split at counted
    · cases counted
    · rename_i sound
      exact ⟨sound, Except.ok.inj counted⟩
  have opening : openArchive machine archive run = .ok reader
      (leaving (log machine [openedRecord reader] run)) := by
    unfold openArchive
    rw [get_bind, content]
    simp only [opened]
    rfl
  apply Exists.intro
  unfold printRecords
  rw [tidy.ofText_text, bind_of_ok opening]
  simp only [sound, out]
  rfl

/-- A dump of a name is done if there are records of it. -/
private theorem execute_of_held (tidy : archive.Tidy)
    (held : Retrievable run.tree archive.text records) (hasRecords : under name records ≠ []) :
    ∃ errors,
      execute ⟨archive.text, some name⟩ machine run = .ok ()
        { run with output := run.output ++ blocks (under name records), errors } := by
  obtain ⟨errors, printed⟩ := printRecords_of_retrievable tidy held
  refine ⟨errors, ?_⟩
  unfold execute
  rw [bind_of_ok (reporting_of_ok printed)]
  exact congrFun (if_neg (mt List.length_eq_zero_iff.1 hasRecords)) _

/-- A dump of a name is done only if there are records of it. -/
private theorem held_of_execute (tidy : archive.Tidy)
    (held : Retrievable run.tree archive.text records)
    (done : execute ⟨archive.text, some name⟩ machine run = .ok () after) :
    under name records ≠ [] := by
  obtain ⟨errors, printed⟩ := printRecords_of_retrievable tidy held
  unfold execute at done
  rw [bind_of_ok (reporting_of_ok printed)] at done
  intro none
  rw [none] at done
  obtain ⟨_, _, -, done⟩ := ok_of_bind done
  cases done

end DumpOrder

namespace Program

variable {machine : Machine} {arguments : List String} {given : Given} {tree : FileTree}

/-- An archive was made of what a command was given. The settings were loaded for the log and again for
the order, the order came down to a plan, and the archive of the plan was written. -/
structure Aggregated (machine : Machine) (given : Given) (before after : FileTree)
    (plan : AggregateOrder.Plan) (collections : List Collection) : Prop where
  named : given.operands.mapM ContainerId.parse = .ok plan.containers
  tidy : plan.archive.Tidy
  made : ∃ order log between settings ready,
    AggregateOrder.ofGiven given = .ok order ∧
    Settings.loadOrDefault machine.surroundings before = .ok log between ∧
    Settings.loadOrDefault machine.surroundings between = .ok settings ready.tree ∧
    order.plan machine settings ready = .ok plan ready ∧
    plan.Archives machine.host ready.tree after collections

/-- A run that was to make an archive and ends well made it. -/
private theorem aggregated_of_run (orders : Orders arguments .aggregate given)
    (ended : (run machine arguments tree).exitCode = 0) : ∃ plan collections,
      Aggregated machine given tree (run machine arguments tree).run.tree plan collections := by
  obtain ⟨after, done, left⟩ := ok_of_earnest (aggregate_earnest orders machine) ended
  obtain ⟨found, isAggregate, sorted, same⟩ := running_of_orders orders machine
  rw [same] at done
  obtain ⟨_, configured, configuring, performed⟩ := ok_of_bind done
  obtain ⟨log, between, loaded, rfl⟩ :=
    (configureLog_eq_ok_iff (by simp [isAggregate])).1 configuring
  rw [perform_aggregate orders isAggregate sorted] at performed
  split at performed
  · rename_i order ordered
    obtain ⟨settings, plan, ready, collections, loaded', planned, archives⟩ :=
      AggregateOrder.archives_of_execute performed
    obtain ⟨named, -, -, located⟩ := AggregateOrder.plan_eq_ok planned
    obtain ⟨tidy, -⟩ := AggregateOrder.archivePath_eq_ok located
    rw [containers_of_ofGiven ordered] at named
    rw [left]
    exact ⟨plan, collections, named, tidy, order, log, between, settings, ready, ordered, loaded,
      loadOrDefault_of_loadSettings loaded', planned, archives⟩
  · cases performed

private theorem exitCode_of_ok {after : Run}
    (done : running machine arguments { tree } = .ok () after) :
    (run machine arguments tree).exitCode = 0 ∧ (run machine arguments tree).run = after := by
  unfold run
  rw [done]
  exact ⟨rfl, rfl⟩

section Dumped

variable {archive : Path} {name : String} {records : List (String × List Archive.Item)}
  (orders : Orders arguments .dump given) (operands : given.operands = [archive.text])
  (asked : given.value? containerOption.name = some name) (tidy : archive.Tidy)
  (held : Retrievable tree archive.text records)
include orders operands asked held

/-- Behind the settings a dump of an archive that is found is only carried out. Loading the settings
makes a directory at most, so the archive is still there. -/
private theorem perform_of_retrievable {found : Call} (isDump : found.command = .dump)
    (sorted : sortArguments Command.dump.options .mixed found.arguments = .ok given)
    {settings : Settings} (configured : Run)
    (load : Settings.loadOrDefault machine.surroundings tree = .ok settings configured.tree) :
    perform machine found configured =
        DumpOrder.execute ⟨archive.text, some name⟩ machine configured ∧
      Retrievable configured.tree archive.text records := by
  have only := Settings.loadOrDefault_onlyMade machine.surroundings tree
  rw [load] at only
  have held' := held.of_keeps only.keeps
  obtain ⟨number, readable⟩ := held'.readable
  refine ⟨?_, held'⟩
  rw [perform_dump orders isDump sorted,
    bind_of_ok (DumpOrder.ofGiven_of_readable operands readable), asked]

include tidy

private theorem dump_of_held {settings : Settings} {loaded : FileTree}
    (load : Settings.loadOrDefault machine.surroundings tree = .ok settings loaded)
    (hasRecords : under name records ≠ []) : (run machine arguments tree).exitCode = 0 ∧
      (run machine arguments tree).run.output = blocks (under name records) := by
  obtain ⟨found, isDump, sorted, same⟩ := running_of_orders orders machine
  obtain ⟨log, configured⟩ : ∃ log,
      configureLog machine found { tree } = .ok () { tree := loaded, log } :=
    ⟨_, (configureLog_eq_ok_iff (by simp [isDump])).2 ⟨settings, loaded, load, rfl⟩⟩
  obtain ⟨performed, held'⟩ := perform_of_retrievable orders operands asked held isDump sorted
    { tree := loaded, log } load
  obtain ⟨errors, executed⟩ := DumpOrder.execute_of_held tidy held' hasRecords
  rw [executed] at performed
  have done := (bind_of_ok configured fun _ => perform machine found).trans performed
  rw [← same] at done
  obtain ⟨ended, left⟩ := exitCode_of_ok done
  refine ⟨ended, ?_⟩
  rw [left]
  exact String.empty_append

private theorem held_of_dump (ended : (run machine arguments tree).exitCode = 0) :
    (∃ settings loaded, Settings.loadOrDefault machine.surroundings tree = .ok settings loaded) ∧
      under name records ≠ [] := by
  obtain ⟨after, done, -⟩ := ok_of_earnest (dump_earnest orders machine) ended
  obtain ⟨found, isDump, sorted, same⟩ := running_of_orders orders machine
  rw [same] at done
  obtain ⟨_, configured, configuring, done⟩ := ok_of_bind done
  obtain ⟨settings, loaded, load, left⟩ :=
    (configureLog_eq_ok_iff (by simp [isDump])).1 configuring
  obtain rfl : configured.tree = loaded := congrArg Run.tree left
  obtain ⟨performed, held'⟩ := perform_of_retrievable orders operands asked held isDump sorted
    configured load
  rw [performed] at done
  exact ⟨⟨settings, _, load⟩, DumpOrder.held_of_execute tidy held' done⟩

/-- A dump of a name in an archive that is found ends well if the settings can be loaded and there are
records of the name, and it shows these. -/
private theorem dump_iff (machine : Machine) :
    ((run machine arguments tree).exitCode = 0 ↔
      (∃ settings loaded, Settings.loadOrDefault machine.surroundings tree = .ok settings loaded) ∧
        under name records ≠ []) ∧
      ((run machine arguments tree).exitCode = 0 →
        (run machine arguments tree).run.output = blocks (under name records)) := by
  constructor
  · refine ⟨held_of_dump orders operands asked tidy held, ?_⟩
    rintro ⟨⟨settings, loaded, load⟩, hasRecords⟩
    exact (dump_of_held orders operands asked tidy held load hasRecords).1
  · intro ended
    obtain ⟨⟨settings, loaded, load⟩, hasRecords⟩ := held_of_dump orders operands asked tidy held ended
    exact (dump_of_held orders operands asked tidy held load hasRecords).2

end Dumped

/-- What an order collected is found again in its archive, each container by its usual text. -/
private theorem retrievable_of_aggregated {before after : FileTree} {plan : AggregateOrder.Plan}
    {collections : List Collection} (made : Aggregated machine given before after plan collections) :
    collections.length = (plan.containers.map ContainerId.text).length ∧
      Retrievable after plan.archive.text
        (itemsUnder (plan.containers.map ContainerId.text) collections) := by
  obtain ⟨_, _, _, _, ready, -, -, -, -, writer, opened, finished, closed, started, performed, closing,
    rfl⟩ := made.made
  have calm : ∀ request ∈ plan.containers.map (plan.request machine.host),
      request.schedule.Calm := by
    intro request among
    obtain ⟨container, -, rfl⟩ := List.mem_map.1 among
    exact .quiet
  have keys : (plan.containers.map (plan.request machine.host)).map Append.key =
      (plan.containers.map ContainerId.text).map fun name => ⟨some name⟩ := by
    rw [List.map_map, List.map_map]
    rfl
  have each := length_of_mapM performed
  rw [List.length_map] at each
  exact ⟨by rw [each, List.length_map],
    Archive.retrievable_of_appends started keys calm performed closing⟩

/-- A run that was to make an archive and ends well made one in which a container is found by its usual
text only. A dump that is given any text of a container that is in the archive ends well, and shows
the container's records, if the settings can still be loaded and the text is the usual one. -/
theorem aggregated_found_iff_usual (orders : Orders arguments .aggregate given)
    (ended : (run machine arguments tree).exitCode = 0) : ∃ plan collections,
      Aggregated machine given tree (run machine arguments tree).run.tree plan collections ∧
        (∀ text id, ContainerId.parse text = .ok id → id ∈ plan.containers →
          ∀ later arguments' given', Orders arguments' .dump given' →
            given'.operands = [plan.archive.text] →
            given'.value? containerOption.name = some text →
              let finish := run later arguments' (run machine arguments tree).run.tree
              (finish.exitCode = 0 ↔
                (∃ settings loaded, Settings.loadOrDefault later.surroundings
                  (run machine arguments tree).run.tree = .ok settings loaded) ∧ text = id.text) ∧
              (finish.exitCode = 0 → finish.run.output = blocks (under id.text
                (itemsUnder (plan.containers.map ContainerId.text) collections)))) := by
  obtain ⟨plan, collections, made⟩ := aggregated_of_run orders ended
  refine ⟨plan, collections, made, ?_⟩
  intro text id parsed among later arguments' given' orders' operands asked finish
  obtain ⟨same, held⟩ := retrievable_of_aggregated made
  obtain ⟨ends, shows⟩ := dump_iff orders' operands asked made.tidy held later
  rw [under_ne_nil_iff same, ContainerId.mem_texts_iff made.named parsed among] at ends
  refine ⟨ends, fun ended' => ?_⟩
  rw [← (ends.1 ended').2]
  exact shows ended'

section Unpadded

/-- A machine with a settings file that is named and missing. -/
def bareMachine : Machine where
  host := ⟨[], {}⟩
  environment := [(Settings.pathVariable, "c.toml")]
  home := "/"
  time := ""
  width := 80

/-- The container that has logs in the tree, in a text without leading zeros. -/
def unpaddedText : String := "container_1_2_3_4"

def usualText : String := "container_1_0002_03_000004"

def unpaddedArguments : List String :=
  ["aggregate", unpaddedText, "--root", "/logs", "--dest", "a.log", "--json"]

def unpaddedGiven : Given :=
  ⟨[("--root", "/logs"), ("--dest", "a.log"), ("--json", "")], [unpaddedText]⟩

def dumpArguments (text : String) : List String := ["dump", "a.log", "--container", text]

private theorem unpaddedArguments_order : Orders unpaddedArguments .aggregate unpaddedGiven where
  called := by decide +kernel
  plain sorted sorts := by
    have whole : sortArguments programOptions .optionsFirst unpaddedArguments =
        .ok ⟨[], unpaddedArguments⟩ := by decide +kernel
    rw [whole] at sorts
    cases sorts
    nofun
  helpless := by decide

def unpaddedOrder : AggregateOrder where
  containers := [unpaddedText]
  roots := ["/logs"]
  destination := "a.log"
  asJson := true

/-- What the order comes down to in the tree. -/
def unpaddedPlan : AggregateOrder.Plan :=
  ⟨[⟨⟨1, 2⟩, 3, 4, none⟩], "0", [⟨"/", ["logs"]⟩], ⟨"", ["a.log"]⟩⟩

private theorem eq_unpaddedPlan {settings : Settings} {plan : AggregateOrder.Plan}
    {before after : Run} (inTree : before.tree = Archive.logTree)
    (planned : unpaddedOrder.plan bareMachine settings before = .ok plan after) :
    plan = unpaddedPlan := by
  obtain ⟨parsed, owner, roots, located⟩ := AggregateOrder.plan_eq_ok planned
  have read : unpaddedOrder.containers.mapM ContainerId.parse = .ok unpaddedPlan.containers := by
    decide +kernel
  have named : unpaddedOrder.expectedOwner bareMachine.host Archive.logTree.user =
      unpaddedPlan.owner := by decide +kernel
  have rooted : unpaddedOrder.roots.map Path.ofText = unpaddedPlan.roots := by decide +kernel
  have placed : plan.archive = unpaddedPlan.archive := by
    unfold AggregateOrder.archivePath at located
    rw [if_pos (by decide), pure_apply] at located
    obtain ⟨same, -⟩ := EStateM.Result.ok.inj located
    rw [← same]
    decide +kernel
  rw [if_neg (by decide), rooted] at roots
  rw [inTree, named] at owner
  rw [read] at parsed
  obtain ⟨containers, _, _, _⟩ := plan
  cases parsed
  cases owner
  cases roots
  cases placed
  rfl

private theorem archives_in_logTree {after : FileTree} {plan : AggregateOrder.Plan}
    {collections : List Collection}
    (made : Aggregated bareMachine unpaddedGiven Archive.logTree after plan collections) :
    plan = unpaddedPlan ∧ plan.Archives bareMachine.host Archive.logTree after collections := by
  obtain ⟨order, _, between, settings, ready, ordered, loaded, loaded', planned, archives⟩ :=
    made.made
  have named : bareMachine.surroundings.environment.get? Settings.pathVariable = some "c.toml" := rfl
  have still := Settings.loadOrDefault_of_named named
  have first := still Archive.logTree
  rw [loaded] at first
  obtain rfl : between = Archive.logTree := first
  have inTree := still Archive.logTree
  rw [loaded'] at inTree
  have known : AggregateOrder.ofGiven unpaddedGiven = .ok unpaddedOrder := by decide +kernel
  rw [known] at ordered
  cases ordered
  rw [show ready.tree = Archive.logTree from inTree] at archives
  exact ⟨eq_unpaddedPlan inTree planned, archives⟩

private theorem dumpUsual_order :
    Orders (dumpArguments usualText) .dump ⟨[("--container", usualText)], ["a.log"]⟩ where
  called := by decide +kernel
  plain sorted sorts := by
    have whole : sortArguments programOptions .optionsFirst (dumpArguments usualText) =
        .ok ⟨[], dumpArguments usualText⟩ := by decide +kernel
    rw [whole] at sorts
    cases sorts
    nofun
  helpless := by decide

private theorem settings_load_behind_unpadded : ∃ settings loaded,
    Settings.loadOrDefault bareMachine.surroundings
      (run bareMachine unpaddedArguments Archive.logTree).run.tree = .ok settings loaded := by
  have loads : (yielded? (Settings.loadOrDefault bareMachine.surroundings
      (run bareMachine unpaddedArguments Archive.logTree).run.tree)).isSome = true := by
    decide +kernel
  obtain ⟨⟨settings, loaded⟩, yielded⟩ := Option.isSome_iff_exists.1 loads
  exact ⟨settings, loaded, yielded?_eq_some_iff.1 yielded⟩

/-- The container is found by its usual text. -/
theorem usual_text_found : ∃ plan collections,
    Aggregated bareMachine unpaddedGiven Archive.logTree
      (run bareMachine unpaddedArguments Archive.logTree).run.tree plan collections ∧
    (run bareMachine (dumpArguments usualText)
      (run bareMachine unpaddedArguments Archive.logTree).run.tree).exitCode = 0 := by
  have ended : (run bareMachine unpaddedArguments Archive.logTree).exitCode = 0 := by decide +kernel
  obtain ⟨plan, collections, made, found⟩ :=
    aggregated_found_iff_usual unpaddedArguments_order ended
  obtain ⟨rfl, -⟩ := archives_in_logTree made
  obtain ⟨ends, -⟩ := found usualText ⟨⟨1, 2⟩, 3, 4, none⟩ (by decide +kernel)
    (by decide) bareMachine _ _ dumpUsual_order (by decide +kernel) (by decide +kernel)
  exact ⟨_, _, made, ends.2 ⟨settings_load_behind_unpadded, by decide +kernel⟩⟩

/-- A container was given by a text without leading zeros, and no dump finds it by that text. -/
theorem unpadded_text_not_found :
    (run bareMachine unpaddedArguments Archive.logTree).exitCode = 0 ∧
      (run bareMachine (dumpArguments unpaddedText)
        (run bareMachine unpaddedArguments Archive.logTree).run.tree).exitCode = 1 := by
  decide +kernel

end Unpadded

end Program

end ContainerLogs.CommandLine
