import ContainerLogs.Collection.Collector
import ContainerLogs.Proofs.Running

/-!
The steps of a collection as functions of its state: what each leaves, and how each may end. What
holds of every step holds of a whole collection.
-/
namespace ContainerLogs

/-- The answer to the nth question for an owner. -/
def ExpectedOwner.answer? : ExpectedOwner → Nat → Option String
  | fixed name, _ => some name
  | perFile answer, query => answer query

/-- How many questions were asked after one more file, of which there are none about a fixed owner.
-/
def ExpectedOwner.asked : ExpectedOwner → Nat → Nat
  | fixed _, queries => queries
  | perFile _, queries => queries + 1

namespace Collector

/-- What stands in the record in place of a file. -/
def Fate.items (path : Path) : Fate → List Archive.Item
  | .mismatch found => [.diagnostic found.message]
  | .included content => [.entry path.name content]
  | .unopened _ | .unread _ => []

/-- The entry of a file in the report. -/
def Fate.enter (path : Path) (report : Report) : Fate → Report
  | .mismatch found => { report with mismatches := report.mismatches ++ [found] }
  | .included _ => { report with included := report.included ++ [path.text] }
  | .unopened _ | .unread _ => { report with skipped := report.skipped ++ [path.text] }

/-- What the log says of a file. -/
def Fate.records (path : Path) : Fate → List LogRecord
  | .unopened refusal => [{
      severity := .warning
      logger := logger
      message := "Cannot open log file " ++ path.text ++ ": " ++ refusal.message }]
  | .mismatch found => (Opening.mismatch found).records
  | .unread refusal => [{
      severity := .warning
      logger := logger
      message := "Error reading log file " ++ path.text ++ ": " ++ refusal.message }]
  | .included _ => []

/-- The fault that putting down a file ends in. -/
def Fate.fault? (path : Path) (trouble : Trouble) : Fate → Option CollectFault
  | .unopened _ => none
  | .mismatch found => handing? trouble.handing (.diagnostic found.message)
  | .unread _ => trouble.closing.map fun errno => .storage [] (.bare errno)
  | .included content => handingCopy? trouble (.entry path.name content)

/-- A collection after a file was put down. -/
def after (owner : ExpectedOwner) (path : Path) (state : Collection) (around : Surroundings)
    (fate : Fate) : Collection where
  toSurroundings := around
  queries := owner.asked state.queries
  items := state.items ++ fate.items path
  report := fate.enter path state.report
  journal := state.journal ++ fate.records path

/-- A collection after a file was visited that could not be put down. -/
def afterFault (owner : ExpectedOwner) (path : Path) (state : Collection) (around : Surroundings)
    (fate : Fate) : Collection :=
  { state with
    toSurroundings := around
    queries := owner.asked state.queries
    journal := state.journal ++ fate.records path }

/-- What is met at a root below which no file is visited. -/
inductive Barren where
  | missing (root : Path)
  | noLogs (root : Path)
  | unlisted (directory : Path) (refusal : Refusal)
  deriving DecidableEq, Repr

/-- What it means that the directory of the container cannot be listed. -/
def Barren.ofRefusal (root directory : Path) (refusal : Refusal) : Barren :=
  if meansNoLogs refusal then .noLogs root else .unlisted directory refusal

def Barren.enter (report : Report) : Barren → Report
  | .missing root => { report with missingRoots := report.missingRoots ++ [root.text] }
  | .noLogs _ => report
  | .unlisted directory _ => { report with skipped := report.skipped ++ [directory.text] }

def Barren.records (container : ContainerId) : Barren → List LogRecord
  | .missing root => [{
      severity := .warning
      logger := logger
      message := "Log root " ++ root.text ++ " does not exist; skipping" }]
  | .noLogs root => [{
      severity := .debug
      logger := logger
      message := "No logs for " ++ container.text ++ " under " ++ root.text }]
  | .unlisted directory refusal => [{
      severity := .warning
      logger := logger
      message := "Cannot list log directory " ++ directory.text ++ ": " ++ refusal.message }]

/-- A collection after a root below which no file was visited. -/
def afterBarren (container : ContainerId) (state : Collection) (around : Surroundings)
    (barren : Barren) : Collection :=
  { state with
    toSurroundings := around
    report := barren.enter state.report
    journal := state.journal ++ barren.records container }

open Running

variable {α : Type} {host : Host} {schedule : Schedule} {owner : ExpectedOwner} {path root : Path}
  {state : Collection}

private theorem askOwner_of_some {expected : String}
    (answered : owner.answer? state.queries = some expected) :
    askOwner owner state = .ok expected { state with queries := owner.asked state.queries } := by
  cases owner with
  | fixed name =>
    cases answered
    rfl
  | perFile answer =>
    have given : answer state.queries = some expected := answered
    simp [askOwner, ExpectedOwner.asked, given]

private theorem askOwner_of_none (unanswered : owner.answer? state.queries = none) :
    askOwner owner state = .error .owner { state with queries := owner.asked state.queries } := by
  cases owner with
  | fixed name => cases unanswered
  | perFile answer =>
    have missing : answer state.queries = none := unanswered
    simp only [askOwner, get_bind, modify_bind, missing]
    rfl

theorem raise_none_bind (next : Unit → Collecting α) (state : Collection) :
    (raise none >>= next) state = next () state := rfl

theorem raise_some_bind (fault : CollectFault) (next : Unit → Collecting α) (state : Collection) :
    (raise (some fault) >>= next) state = .error fault state := rfl

theorem putDown_of_whole {trouble : Trouble} {fate : Fate} (whole : fate.fault? path trouble = none)
    (state : Collection) : putDown path trouble fate state = .ok () { state with
      items := state.items ++ fate.items path
      report := fate.enter path state.report
      journal := state.journal ++ fate.records path } := by
  cases fate <;> simp only [Fate.fault?] at whole <;>
    simp [putDown, note, skip, record, emit, Fate.items, Fate.enter, Fate.records, whole,
      raise_none_bind] <;> rfl

theorem putDown_of_fault {trouble : Trouble} {fate : Fate} {fault : CollectFault}
    (failed : fate.fault? path trouble = some fault) (state : Collection) :
    putDown path trouble fate state =
      .error fault { state with journal := state.journal ++ fate.records path } := by
  cases fate <;> simp only [Fate.fault?, reduceCtorEq] at failed <;>
    simp [putDown, note, Fate.records, failed, raise_some_bind]

private theorem around_eq (step : Surroundings → Surroundings × α) (state : Collection) :
    around step state = .ok (step state.toSurroundings).2
      { state with toSurroundings := (step state.toSurroundings).1 } := rfl

private theorem around_of_eq (state : Collection) {step : Surroundings → Surroundings × α}
    {after : Surroundings} {a : α} (made : step state.toSurroundings = (after, a)) :
    around step state = .ok a { state with toSurroundings := after } := by
  rw [around_eq, made]

section File

variable {expected : String} {around : Surroundings} {fate : Fate}
  (answered : owner.answer? state.queries = some expected)
  (visited : visit host schedule path expected state.toSurroundings = (around, fate))
include answered visited

/-- A file is visited only when it is known who should own it. -/
private theorem collectFile_of_visited : collectFile host schedule owner path state =
    putDown path (schedule.trouble around.requests) fate
      { state with toSurroundings := around, queries := owner.asked state.queries } := by
  unfold collectFile
  rw [bind_of_ok (askOwner_of_some answered)]
  refine (bind_of_ok (around_of_eq { state with queries := owner.asked state.queries } visited) _).trans ?_
  exact get_bind _

theorem collectFile_of_whole (whole : fate.fault? path (schedule.trouble around.requests) = none) :
    collectFile host schedule owner path state = .ok () (after owner path state around fate) := by
  rw [collectFile_of_visited answered visited, putDown_of_whole whole]
  rfl

theorem collectFile_of_fault {fault : CollectFault}
    (failed : fate.fault? path (schedule.trouble around.requests) = some fault) :
    collectFile host schedule owner path state =
      .error fault (afterFault owner path state around fate) := by
  rw [collectFile_of_visited answered visited, putDown_of_fault failed]
  rfl

end File

theorem collectFile_of_none (unanswered : owner.answer? state.queries = none) :
    collectFile host schedule owner path state =
      .error .owner { state with queries := owner.asked state.queries } :=
  bind_of_error (askOwner_of_none unanswered) _

variable {collector : Collector}

theorem collectRoot_of_refused {around : Surroundings} {refusal : Refusal}
    (examined : examineRoot schedule root state.toSurroundings = (around, .error refusal)) :
    collectRoot host schedule collector root state =
      .error (.root refusal) { state with toSurroundings := around } := by
  unfold collectRoot
  rw [bind_of_ok (around_of_eq state examined)]
  rfl

theorem collectRoot_of_missing {around : Surroundings}
    (examined : examineRoot schedule root state.toSurroundings = (around, .ok false)) :
    collectRoot host schedule collector root state =
      .ok () (afterBarren collector.container state around (.missing root)) := by
  unfold collectRoot
  rw [bind_of_ok (around_of_eq state examined)]
  rfl

theorem collectRoot_of_unlisted {between around : Surroundings} {refusal : Refusal}
    (examined : examineRoot schedule root state.toSurroundings = (between, .ok true))
    (listed : list schedule (collector.directoryIn root) between = (around, .error refusal)) :
    collectRoot host schedule collector root state = .ok () (afterBarren collector.container state
      around (.ofRefusal root (collector.directoryIn root) refusal)) := by
  unfold collectRoot
  rw [bind_of_ok (around_of_eq state examined)]
  refine (bind_of_ok (around_of_eq { state with toSurroundings := between } listed) _).trans ?_
  simp only [Barren.ofRefusal]
  split <;> rfl

theorem collectRoot_of_listed {between around : Surroundings} {names : List String}
    (examined : examineRoot schedule root state.toSurroundings = (between, .ok true))
    (listed : list schedule (collector.directoryIn root) between = (around, .ok names)) :
    collectRoot host schedule collector root state =
      (names.forM fun name => collectFile host schedule collector.owner
        ((collector.directoryIn root).append ⟨"", [name]⟩)) { state with toSurroundings := around } := by
  unfold collectRoot
  rw [bind_of_ok (around_of_eq state examined)]
  exact bind_of_ok (around_of_eq { state with toSurroundings := between } listed) _

/-- A collection that is done, with its summary in the log. -/
def summarized (container : ContainerId) (state : Collection) : Collection :=
  { state with
    journal := state.journal ++ [{
      severity := .debug
      logger := logger
      message := summary container state.report }] }

/-- Collecting goes from root to root and then sums up. -/
theorem produce_eq (collector : Collector) (host : Host) (schedule : Schedule) (tree : FileTree)
    (queries : Nat) : collector.produce host schedule tree queries =
      match collector.roots.forM (collectRoot host schedule collector)
        { tree := tree, queries := queries } with
      | .ok () state => .ok () (summarized collector.container state)
      | .error fault state => .error fault state := by
  unfold produce collect
  split <;> rename_i made
  · exact bind_of_ok made _
  · exact bind_of_error made _

/-- What a step leaves, done or not. -/
def left : EStateM.Result CollectFault Collection α → Collection
  | .ok _ state => state
  | .error _ state => state

/-- Putting down a file asks nothing more of the file tree. -/
theorem around_of_collectFile {expected : String}
    (answered : owner.answer? state.queries = some expected) :
    (left (collectFile host schedule owner path state)).toSurroundings =
      (visit host schedule path expected state.toSurroundings).1 := by
  rcases visited : visit host schedule path expected state.toSurroundings with ⟨around, fate⟩
  cases ends : fate.fault? path (schedule.trouble around.requests) with
  | none =>
    rw [collectFile_of_whole answered visited ends]
    rfl
  | some fault =>
    rw [collectFile_of_fault answered visited ends]
    rfl

/-- A step that is made one by one along a list stays within what it stays within at each item. -/
theorem left_forM {ι : Type} (holds : Surroundings → Prop) {step : ι → Collecting Unit}
    (steady : ∀ item state, holds state.toSurroundings →
      holds (left (step item state)).toSurroundings)
    (items : List ι) (state : Collection) (before : holds state.toSurroundings) :
    holds (left (items.forM step state)).toSurroundings := by
  induction items generalizing state with
  | nil => exact before
  | cons item items ih =>
    have next := steady item state before
    rw [forM_cons]
    cases made : step item state with
    | ok _ between =>
      rw [made] at next
      exact ih between next
    | error fault between =>
      rw [made] at next
      exact next

/-- What the requests of a collection preserve holds after it, however it ends. -/
structure Steady (host : Host) (schedule : Schedule) (holds : Surroundings → Prop) : Prop where
  examineRoot : ∀ root around, holds around → holds (examineRoot schedule root around).1
  list : ∀ directory around, holds around → holds (list schedule directory around).1
  visit : ∀ path expected around, holds around → holds (visit host schedule path expected around).1

namespace Steady

variable {holds : Surroundings → Prop} (steady : Steady host schedule holds)
include steady

theorem collectFile (owner : ExpectedOwner) (path : Path) (state : Collection)
    (before : holds state.toSurroundings) :
    holds (left (collectFile host schedule owner path state)).toSurroundings := by
  cases answered : owner.answer? state.queries with
  | none =>
    rw [collectFile_of_none answered]
    exact before
  | some expected =>
    rw [around_of_collectFile answered]
    exact steady.visit path expected _ before

theorem collectRoot (collector : Collector) (root : Path) (state : Collection)
    (before : holds state.toSurroundings) :
    holds (left (collectRoot host schedule collector root state)).toSurroundings := by
  have first := steady.examineRoot root _ before
  rcases examined : Collector.examineRoot schedule root state.toSurroundings with
    ⟨between, refusal | _ | _⟩
  · rw [examined] at first
    rw [collectRoot_of_refused examined]
    exact first
  · rw [examined] at first
    rw [collectRoot_of_missing examined]
    exact first
  · rw [examined] at first
    have second := steady.list (collector.directoryIn root) _ first
    rcases listed : Collector.list schedule (collector.directoryIn root) between with
      ⟨around, refusal | names⟩
    · rw [listed] at second
      rw [collectRoot_of_unlisted examined listed]
      exact second
    · rw [listed] at second
      rw [collectRoot_of_listed examined listed]
      exact left_forM holds (fun _ => steady.collectFile collector.owner _) names _ second

theorem produce (collector : Collector) (tree : FileTree) (queries : Nat)
    (before : holds { tree := tree }) :
    holds (left (collector.produce host schedule tree queries)).toSurroundings := by
  have roots := left_forM holds (steady.collectRoot collector) collector.roots
    { tree := tree, queries := queries } before
  rw [produce_eq]
  split <;> rename_i made <;> rw [made] at roots <;> exact roots

end Steady

end Collector

/-- Nobody changes files while a collection runs; reading them may still fail. -/
structure Schedule.Calm (schedule : Schedule) : Prop where
  afterListing : schedule.afterListing = []
  onRead : ∀ event ∈ schedule.onRead, event.2.changes = []
  meanwhile : ∀ request, schedule.meanwhile request = []

/-- Nothing fails of the places where bytes are put aside. -/
def Schedule.Untroubled (schedule : Schedule) : Prop := ∀ request, schedule.trouble request = {}

namespace Schedule.Calm

variable {schedule : Schedule} (calm : schedule.Calm)

theorem quiet : Schedule.quiet.Calm := ⟨rfl, by simp [Schedule.quiet], fun _ => rfl⟩

include calm

theorem eventFor (name : String) : (schedule.eventFor name).changes = [] := by
  unfold Schedule.eventFor
  split
  · rename_i event found
    exact calm.onRead _ (List.mem_of_find?_eq_some found)
  · rfl

theorem await (around : Surroundings) :
    around.await schedule = { around with requests := around.requests + 1 } := by
  simp [Surroundings.await, calm.meanwhile, Act.performAll]

theorem tree_awaitTimes (count : Nat) (around : Surroundings) :
    (around.awaitTimes schedule count).tree = around.tree := by
  induction count with
  | zero => rfl
  | succ count ih =>
    rw [Surroundings.awaitTimes, calm.await]
    exact ih

theorem tree_afterListing (around : Surroundings) :
    (around.afterListing schedule).1.tree = around.tree := by
  unfold Surroundings.afterListing
  rw [calm.afterListing]
  split <;> rfl

theorem tree_take (name : String) (number : Nat) (around : Surroundings) :
    (Snapshot.take schedule name number around).1.tree = around.tree := by
  simp only [Snapshot.take, calm.await]
  split
  · rfl
  · rw [Snapshot.readOpen, calm.eventFor]
    exact calm.tree_awaitTimes _ _

/-- A calm collection leaves the tree as it was. -/
theorem steady (host : Host) (tree : FileTree) :
    Collector.Steady host schedule (·.tree = tree) where
  examineRoot root around h := by simpa [Collector.examineRoot, calm.await] using h
  list directory around h := by
    unfold Collector.list
    simp only [calm.await]
    split
    · exact h
    · have kept := calm.tree_afterListing { around with requests := around.requests + 1 }
      split <;> rename_i listing <;> rw [listing] at kept <;> exact kept.trans h
  visit path expected around h := by
    unfold Collector.visit
    simp only [calm.await]
    split
    · exact h
    · rename_i number actual _
      split
      · exact h
      · rename_i granted _
        have kept := calm.tree_take path.name granted (Surroundings.note ⟨number, actual, expected⟩
          { around with requests := around.requests + 1 })
        split <;> rename_i taking <;> rw [taking] at kept <;> exact kept.trans h

end Schedule.Calm

end ContainerLogs
