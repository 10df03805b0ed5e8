import ContainerLogs.Proofs.Collection.Steps
import ContainerLogs.Proofs.FileTree.Concealment

/-!
What collections show of the files of others: nothing. Two trees that differ in what some files hold
are collected from alike, in step, as long as none of these files belongs to the expected owner when
it is opened; neither size nor content of such a file is asked for.
-/
namespace ContainerLogs

open FileTree (AlikeBut)
open Running (forM_cons)

/-- Surroundings that differ at most in what the secret files hold. -/
structure Surroundings.Alike (secret : Nat → Prop) (left right : Surroundings) : Prop where
  tree : AlikeBut secret left.tree right.tree
  requests : right.requests = left.requests
  listed : right.listed = left.listed
  comparisons : right.comparisons = left.comparisons

/-- No secret file that was opened belonged to the expected owner. -/
def Foreign (secret : Nat → Prop) (comparisons : List Comparison) : Prop :=
  ∀ comparison ∈ comparisons, secret comparison.number → comparison.actual ≠ comparison.expected

namespace Surroundings

variable {secret : Nat → Prop} {left right : Surroundings} (h : Alike secret left right)
include h

private theorem Alike.await (schedule : Schedule) :
    Alike secret (left.await schedule) (right.await schedule) where
  tree := by
    unfold Surroundings.await
    rw [h.requests]
    exact Act.performAll_alike h.tree _
  requests := congrArg (· + 1) h.requests
  listed := h.listed
  comparisons := h.comparisons

private theorem Alike.awaitTimes (schedule : Schedule) (count : Nat) :
    Alike secret (left.awaitTimes schedule count) (right.awaitTimes schedule count) := by
  induction count with
  | zero => exact h
  | succ count ih => exact ih.await schedule

private theorem Alike.note (comparison : Comparison) :
    Alike secret (left.note comparison) (right.note comparison) :=
  ⟨h.tree, h.requests, h.listed, congrArg (· ++ [comparison]) h.comparisons⟩

/-- The surroundings with changes made in their tree. -/
private theorem Alike.withTree {tree tree' : FileTree} (alike : AlikeBut secret tree tree') :
    Alike secret { left with tree } { right with tree := tree' } :=
  ⟨alike, h.requests, h.listed, h.comparisons⟩

private theorem Alike.afterListing (schedule : Schedule) :
    Alike secret (left.afterListing schedule).1 (right.afterListing schedule).1 ∧
      (right.afterListing schedule).2 = (left.afterListing schedule).2 := by
  obtain ⟨tree, same⟩ := Change.applyAll_alike h.tree schedule.afterListing
  unfold Surroundings.afterListing
  rw [h.listed]
  split
  · exact ⟨h, rfl⟩
  · exact ⟨⟨tree, h.requests, rfl, h.comparisons⟩, same⟩

omit h in
private theorem comparisons_awaitTimes (schedule : Schedule) (count : Nat) (around : Surroundings) :
    (around.awaitTimes schedule count).comparisons = around.comparisons := by
  induction count with
  | zero => rfl
  | succ count ih => exact ih

omit h in
theorem comparisons_afterListing (around : Surroundings) (schedule : Schedule) :
    (around.afterListing schedule).1.comparisons = around.comparisons := by
  unfold Surroundings.afterListing
  split <;> rfl

end Surroundings

open Surroundings (Alike)

namespace FileTree

variable {secret : Nat → Prop} {left right : FileTree} (h : AlikeBut secret left right)
include h

private theorem AlikeBut.directoryEntries_eq (path : String) :
    right.directoryEntries path = left.directoryEntries path := by
  unfold directoryEntries
  rw [h.layout.resolve_eq]
  cases left.resolve path with
  | error refusal => rfl
  | ok number =>
    simp only [bind, Except.bind, h.permits_eq]
    rcases h.node number with same | ⟨-, old, new, owner, mode, before, after⟩
    · rw [same]
    · simp only [before, after]

private theorem AlikeBut.isListed_eq (path : String) (number : Nat) :
    Collector.isListed right path number = Collector.isListed left path number := by
  unfold Collector.isListed
  rcases h.node number with same | ⟨-, old, new, owner, mode, before, after⟩
  · rw [same]
    split
    · rfl
    · have both := h.stat path .node
      generalize left.stat path = first, right.stat path = second at both
      cases both with
      | refused refusal => rfl
      | done twins => simp only [twins.isFile]
    · rfl
  · simp only [before, after]

private theorem AlikeBut.listFiles_eq (directory : Path) :
    Collector.listFiles right directory = Collector.listFiles left directory := by
  simp only [Collector.listFiles, h.directoryEntries_eq, h.isListed_eq]

private theorem AlikeBut.openRegular_eq (users : Users) (path : String) :
    Opening.openRegular right users path = Opening.openRegular left users path := by
  unfold Opening.openRegular
  rw [h.openNode_eq]
  cases left.openNode path with
  | error refusal => rfl
  | ok number =>
    simp only [bind, Except.bind]
    rcases h.node number with same | ⟨-, old, new, owner, mode, before, after⟩
    · rw [same]
    · simp only [before, after]

end FileTree

namespace Snapshot

variable {secret : Nat → Prop} {left right : Surroundings}

/-- Reads of a file of which there is no secret give the same. -/
private theorem readsAmid_alike (h : Alike secret left right) (schedule : Schedule)
    (failure : Option (Errno × Nat)) {number : Nat} (known : ¬ secret number) :
    readsAmid schedule failure number right = readsAmid schedule failure number left := by
  funext turn
  simp only [readsAmid, (h.awaitTimes schedule (turn + 1)).tree.content_eq known]

/-- Only a snapshot looks into a file, and of that file there is no secret. -/
private theorem take_alike (h : Alike secret left right) (schedule : Schedule) (name : String)
    {number : Nat} (known : ¬ secret number) :
    Alike secret (take schedule name number left).1 (take schedule name number right).1 ∧
      (take schedule name number right).2 = (take schedule name number left).2 := by
  have sized := h.await schedule
  obtain ⟨tree, same⟩ := Change.applyAll_alike sized.tree (schedule.eventFor name).changes
  unfold take
  simp only [sized.tree.content_eq known]
  split
  · exact ⟨sized, rfl⟩
  · unfold readOpen
    generalize Change.applyAll (left.await schedule).tree (schedule.eventFor name).changes = first,
      Change.applyAll (right.await schedule).tree (schedule.eventFor name).changes = second
      at tree same
    obtain ⟨before, stopped⟩ := first
    obtain ⟨after, stopped'⟩ := second
    obtain rfl : stopped' = stopped := same
    have begun := sized.withTree tree
    cases stopped' with
    | some refusal => exact ⟨begun, rfl⟩
    | none =>
      simp only [readsAmid_alike begun schedule _ known]
      exact ⟨begun.awaitTimes schedule _, trivial⟩

theorem comparisons_take (schedule : Schedule) (name : String) (number : Nat)
    (around : Surroundings) :
    (take schedule name number around).1.comparisons = around.comparisons := by
  unfold take
  simp only
  split
  · rfl
  · unfold readOpen
    split
    · rfl
    · exact Surroundings.comparisons_awaitTimes schedule _ _

end Snapshot

namespace Collector

variable {secret : Nat → Prop} {left right : Surroundings} {host : Host} {schedule : Schedule}

private theorem examineRoot_alike (h : Alike secret left right) (schedule : Schedule)
    (root : Path) :
    Alike secret (examineRoot schedule root left).1 (examineRoot schedule root right).1 ∧
      (examineRoot schedule root right).2 = (examineRoot schedule root left).2 :=
  ⟨h.await schedule, (h.await schedule).tree.isDirectory_eq root.text⟩

private theorem list_alike (h : Alike secret left right) (schedule : Schedule) (directory : Path) :
    Alike secret (list schedule directory left).1 (list schedule directory right).1 ∧
      (list schedule directory right).2 = (list schedule directory left).2 := by
  have waited := h.await schedule
  obtain ⟨after, same⟩ := waited.afterListing schedule
  unfold list
  simp only [waited.tree.listFiles_eq]
  split
  · exact ⟨waited, rfl⟩
  · generalize (left.await schedule).afterListing schedule = first,
      (right.await schedule).afterListing schedule = second at after same
    obtain ⟨around, stopped⟩ := first
    obtain ⟨around', stopped'⟩ := second
    obtain rfl : stopped' = stopped := same
    cases stopped' <;> exact ⟨after, rfl⟩

private theorem visit_alike (h : Alike secret left right) (path : Path) (expected : String)
    (foreign : Foreign secret (visit host schedule path expected left).1.comparisons) :
    Alike secret (visit host schedule path expected left).1
        (visit host schedule path expected right).1 ∧
      (visit host schedule path expected right).2 = (visit host schedule path expected left).2 := by
  have waited := h.await schedule
  unfold visit at foreign ⊢
  simp only [waited.tree.openRegular_eq] at foreign ⊢
  cases opened : Opening.openRegular (left.await schedule).tree host.users path.text with
  | error refusal => exact ⟨waited, rfl⟩
  | ok found =>
    obtain ⟨number, actual⟩ := found
    simp only [opened] at foreign ⊢
    have noted := waited.note ⟨number, actual, expected⟩
    unfold Opening.judge at foreign ⊢
    by_cases own : actual = expected
    · simp only [if_pos own] at foreign ⊢
      -- A file that is read was compared, and its owner found to be the expected one.
      have known : ¬ secret number := by
        intro hidden
        have listed : (⟨number, actual, expected⟩ : Comparison) ∈
            (Snapshot.take schedule path.name number
              ((left.await schedule).note ⟨number, actual, expected⟩)).1.comparisons := by
          rw [Snapshot.comparisons_take]
          exact List.mem_append_right _ List.mem_cons_self
        refine foreign ⟨number, actual, expected⟩ ?_ hidden own
        split <;> rename_i taken <;> rw [taken] at listed <;> exact listed
      obtain ⟨after, same⟩ := Snapshot.take_alike noted schedule path.name known
      generalize Snapshot.take schedule path.name number
          ((left.await schedule).note ⟨number, actual, expected⟩) = first,
        Snapshot.take schedule path.name number
          ((right.await schedule).note ⟨number, actual, expected⟩) = second at after same
      obtain ⟨around, content⟩ := first
      obtain ⟨around', content'⟩ := second
      obtain rfl : content' = content := same
      cases content' <;> exact ⟨after, rfl⟩
    · simp only [if_neg own, and_true]
      exact noted

/-- What was compared stays on record. -/
private theorem steady_comparisons (host : Host) (schedule : Schedule) (seen : List Comparison) :
    Steady host schedule (seen <+: ·.comparisons) where
  examineRoot _ _ before := before
  list directory around before := by
    unfold list
    simp only
    split
    · exact before
    · have kept := (around.await schedule).comparisons_afterListing schedule
      split <;> rename_i listing <;> rw [listing] at kept <;> exact kept ▸ before
  visit path expected around before := by
    unfold visit
    simp only
    split
    · exact before
    · rename_i number actual _
      have noted : seen <+: ((around.await schedule).note ⟨number, actual, expected⟩).comparisons :=
        before.trans (List.prefix_append _ _)
      split
      · exact noted
      · rename_i granted _
        have kept := Snapshot.comparisons_take schedule path.name granted
          ((around.await schedule).note ⟨number, actual, expected⟩)
        split <;> rename_i taken <;> rw [taken] at kept <;> exact kept ▸ noted

/-- Collections under way that differ at most in what the secret files hold. -/
structure AlikeStates (secret : Nat → Prop) (left right : Collection) : Prop where
  around : Alike secret left.toSurroundings right.toSurroundings
  queries : right.queries = left.queries
  items : right.items = left.items
  report : right.report = left.report
  journal : right.journal = left.journal

/-- Steps that end alike. -/
inductive AlikeResults {α : Type} (secret : Nat → Prop) :
    EStateM.Result CollectFault Collection α → EStateM.Result CollectFault Collection α → Prop where
  | done {a : α} {left right : Collection} (h : AlikeStates secret left right) :
      AlikeResults secret (.ok a left) (.ok a right)
  | failed {fault : CollectFault} {left right : Collection} (h : AlikeStates secret left right) :
      AlikeResults secret (.error fault left) (.error fault right)

variable {first second : Collection}

private theorem collectFile_alike (h : AlikeStates secret first second) (owner : ExpectedOwner)
    (path : Path) (foreign : Foreign secret
      (Collector.left (collectFile host schedule owner path first)).comparisons) :
    AlikeResults secret (collectFile host schedule owner path first)
      (collectFile host schedule owner path second) := by
  cases answered : owner.answer? first.queries with
  | none =>
    have answered' := answered
    rw [← h.queries] at answered'
    rw [collectFile_of_none answered, collectFile_of_none answered']
    exact .failed ⟨h.around, congrArg owner.asked h.queries, h.items, h.report, h.journal⟩
  | some expected =>
    have answered' := answered
    rw [← h.queries] at answered'
    rw [around_of_collectFile answered] at foreign
    obtain ⟨around, same⟩ := visit_alike h.around path expected foreign
    rcases one : visit host schedule path expected first.toSurroundings with ⟨next, fate⟩
    rcases two : visit host schedule path expected second.toSurroundings with ⟨next', fate'⟩
    rw [one, two] at around same
    obtain rfl : fate' = fate := same
    -- The same fails of both, since as many requests were made.
    cases ends : fate'.fault? path (schedule.trouble next.requests) with
    | none =>
      have ends' := ends
      rw [← around.requests] at ends'
      rw [collectFile_of_whole answered one ends, collectFile_of_whole answered' two ends']
      refine .done ⟨around, congrArg owner.asked h.queries, ?_, ?_, ?_⟩
      · exact congrArg (· ++ _) h.items
      · exact congrArg (Fate.enter path · _) h.report
      · exact congrArg (· ++ _) h.journal
    | some fault =>
      have ends' := ends
      rw [← around.requests] at ends'
      rw [collectFile_of_fault answered one ends, collectFile_of_fault answered' two ends']
      exact .failed ⟨around, congrArg owner.asked h.queries, h.items, h.report,
        congrArg (· ++ _) h.journal⟩

private theorem forM_alike {ι : Type} (step : ι → Collecting Unit)
    (steady : ∀ seen item state, seen <+: state.comparisons →
      seen <+: (Collector.left (step item state)).comparisons)
    (alike : ∀ {first second} item, AlikeStates secret first second →
      Foreign secret (Collector.left (step item first)).comparisons →
      AlikeResults secret (step item first) (step item second))
    (items : List ι) (h : AlikeStates secret first second)
    (foreign : Foreign secret (Collector.left (items.forM step first)).comparisons) :
    AlikeResults secret (items.forM step first) (items.forM step second) := by
  induction items generalizing first second with
  | nil => exact .done h
  | cons item items ih =>
    rw [forM_cons] at foreign ⊢
    rw [forM_cons]
    -- What the first step compared is among what all of them did.
    have early : Foreign secret (Collector.left (step item first)).comparisons := by
      cases made : step item first with
      | error fault between =>
        rw [made] at foreign
        exact foreign
      | ok _ between =>
        rw [made] at foreign
        have grown := left_forM (between.comparisons <+: ·.comparisons)
          (fun item state => steady _ item state) items between (List.prefix_refl _)
        exact fun comparison among => foreign comparison (grown.subset among)
    have here := alike item h early
    generalize step item first = one, step item second = two at here foreign
    cases here with
    | failed states => exact .failed states
    | done states => exact ih states foreign

private theorem collectRoot_alike (h : AlikeStates secret first second) (collector : Collector)
    (root : Path) (foreign : Foreign secret
      (Collector.left (collectRoot host schedule collector root first)).comparisons) :
    AlikeResults secret (collectRoot host schedule collector root first)
      (collectRoot host schedule collector root second) := by
  obtain ⟨examined, same⟩ := examineRoot_alike h.around schedule root
  rcases one : examineRoot schedule root first.toSurroundings with ⟨around, kind⟩
  rcases two : examineRoot schedule root second.toSurroundings with ⟨around', kind'⟩
  rw [one, two] at examined same
  obtain rfl : kind' = kind := same
  have passed (barren : Barren) {before after : Surroundings} (alike : Alike secret before after) :
      AlikeStates secret (afterBarren collector.container first before barren)
        (afterBarren collector.container second after barren) :=
    ⟨alike, h.queries, h.items, congrArg (barren.enter ·) h.report, congrArg (· ++ _) h.journal⟩
  obtain refusal | _ | _ := kind'
  · rw [collectRoot_of_refused one, collectRoot_of_refused two]
    exact .failed ⟨examined, h.queries, h.items, h.report, h.journal⟩
  · rw [collectRoot_of_missing one, collectRoot_of_missing two]
    exact .done (passed _ examined)
  · obtain ⟨listed, same⟩ := list_alike examined schedule (collector.directoryIn root)
    rcases three : list schedule (collector.directoryIn root) around with ⟨between, names⟩
    rcases four : list schedule (collector.directoryIn root) around' with ⟨between', names'⟩
    rw [three, four] at listed same
    obtain rfl : names' = names := same
    obtain refusal | names := names'
    · rw [collectRoot_of_unlisted one three, collectRoot_of_unlisted two four]
      exact .done (passed _ listed)
    · rw [collectRoot_of_listed one three] at foreign ⊢
      rw [collectRoot_of_listed two four]
      exact forM_alike _ (fun seen _ => (steady_comparisons host schedule seen).collectFile _ _)
        (fun _ states => collectFile_alike states _ _) names
        ⟨listed, h.queries, h.items, h.report, h.journal⟩ foreign

end Collector

/-- What a collection lets others see: how it ended, what it wrote, its report and its log, and how
often it asked for an owner. -/
structure Shown where
  fault? : Option CollectFault
  value : Bytes
  report : Report
  journal : List LogRecord
  queries : Nat

def Collection.shown (collection : Collection) (fault? : Option CollectFault) : Shown :=
  ⟨fault?, collection.value, collection.report, collection.journal, collection.queries⟩

private theorem Collector.AlikeStates.shown_eq {secret : Nat → Prop} {left right : Collection}
    (h : AlikeStates secret left right) (fault? : Option CollectFault) :
    right.shown fault? = left.shown fault? := by
  simp only [Collection.shown, Collection.value, h.items, h.report, h.journal, h.queries]

def Collector.shown : EStateM.Result CollectFault Collection Unit → Shown
  | .ok () collection => collection.shown none
  | .error fault collection => collection.shown (some fault)

namespace Collector

variable {secret : Nat → Prop}

/-- The roots are collected from alike, and so the collections end alike. -/
theorem produce_alike (collector : Collector) (host : Host) (schedule : Schedule) (queries : Nat)
    {left right : FileTree} (alike : AlikeBut secret left right)
    (foreign : Foreign secret
      (Collector.left (collector.produce host schedule left queries)).comparisons) :
    AlikeResults secret (collector.produce host schedule left queries)
      (collector.produce host schedule right queries) := by
  rw [produce_eq] at foreign ⊢
  rw [produce_eq]
  have begun : AlikeStates secret { tree := left, queries := queries }
      { tree := right, queries := queries } :=
    ⟨⟨alike, rfl, rfl, rfl⟩, rfl, rfl, rfl, rfl⟩
  have roots := forM_alike (collectRoot host schedule collector)
    (fun seen root => (steady_comparisons host schedule seen).collectRoot collector root)
    (fun root states => collectRoot_alike states collector root) collector.roots begun
  generalize collector.roots.forM (collectRoot host schedule collector)
      { tree := left, queries := queries } = first,
    collector.roots.forM (collectRoot host schedule collector)
      { tree := right, queries := queries } = second at roots foreign
  cases first with
  | error fault state =>
    cases roots foreign with
    | failed states => exact .failed states
  | ok _ state =>
    cases roots foreign with
    | done states =>
      refine .done ⟨states.around, states.queries, states.items, states.report, ?_⟩
      simp only [summarized, states.journal, states.report]

/-- Files that do not belong to the expected owner when they are opened are concealed: whatever they
hold, a collection shows the same. -/
theorem produce_conceals (collector : Collector) (host : Host) (schedule : Schedule) (queries : Nat)
    {left right : FileTree} (alike : AlikeBut secret left right)
    (foreign : Foreign secret
      (Collector.left (collector.produce host schedule left queries)).comparisons) :
    shown (collector.produce host schedule right queries) =
      shown (collector.produce host schedule left queries) := by
  have results := produce_alike collector host schedule queries alike foreign
  generalize collector.produce host schedule left queries = first,
    collector.produce host schedule right queries = second at results
  cases results with
  | done states => exact states.shown_eq none
  | failed states => exact states.shown_eq _

/-- A tree with one log file and with a key that belongs to somebody else. -/
def keyTree (key : Bytes) : FileTree where
  nodes := [
    ⟨.directory [("logs", 1), ("key", 5)] 0, 0, 0o755⟩,
    ⟨.directory [("application_1_0002", 2)] 0, 0, 0o755⟩,
    ⟨.directory [("container_1_0002_03_000004", 3)] 1, 0, 0o755⟩,
    ⟨.directory [("stdout", 4)] 2, 0, 0o755⟩,
    ⟨.file [104, 105], 0, 0o644⟩,
    ⟨.file key, 7, 0o644⟩]
  base := 0

private theorem keyTree_alike (left right : Bytes) :
    AlikeBut (· = 5) (keyTree left) (keyTree right) where
  base := rfl
  user := rfl
  length := rfl
  node
    | 0 | 1 | 2 | 3 | 4 => .inl rfl
    | 5 => .inr ⟨rfl, left, right, 7, 0o644, rfl, rfl⟩
    | _ + 6 => .inl rfl

/-- Once the log file was listed, a link to the key is put in its place. -/
def swapping : Schedule where
  afterListing := [
    .remove "/logs/application_1_0002/container_1_0002_03_000004/stdout",
    .symlink "/logs/application_1_0002/container_1_0002_03_000004/stdout" "/key"]

def keyCollector : Collector := ⟨[⟨"/", ["logs"]⟩], ⟨⟨1, 2⟩, 3, 4, none⟩, .fixed "root"⟩

theorem swapped_key_concealed :
    (Collector.left (keyCollector.produce ⟨[(0, "root")], {}⟩ swapping (keyTree [1]))).comparisons =
      [⟨5, "7", "root"⟩] ∧
    shown (keyCollector.produce ⟨[(0, "root")], {}⟩ swapping (keyTree [2, 3]) 0) =
      shown (keyCollector.produce ⟨[(0, "root")], {}⟩ swapping (keyTree [1]) 0) := by
  have compared : (Collector.left (keyCollector.produce ⟨[(0, "root")], {}⟩ swapping
      (keyTree [1]))).comparisons = [⟨5, "7", "root"⟩] := by decide +kernel
  refine ⟨compared, produce_conceals _ _ _ _ (keyTree_alike [1] [2, 3]) ?_⟩
  rw [compared]
  simp [Foreign]

end Collector

end ContainerLogs
