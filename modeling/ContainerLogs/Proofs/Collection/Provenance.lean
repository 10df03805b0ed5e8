import ContainerLogs.Proofs.Collection.Confidentiality
import ContainerLogs.Proofs.Collection.Survey
import ContainerLogs.Proofs.FileTree.Persistence

/-!
Where the items of a record come from. A collection goes from root to root and from file to file,
and every item was given when the turn of a file came. What stands in an entry was read from the very
file that the name led to when it was opened and that belonged to the expected owner then, whatever
others did to the name and to the file before it was read.
-/
namespace ContainerLogs

open FileTree (Lasts)
open Running (bind_of_eq bind_of_error bind_of_ok forM_cons)

private theorem Surroundings.await_lasts (schedule : Schedule) (around : Surroundings) :
    Lasts around.tree (around.await schedule).tree :=
  Act.performAll_lasts _ around.tree

private theorem Surroundings.awaitTimes_lasts (schedule : Schedule) (count : Nat)
    (around : Surroundings) :
    Lasts around.tree (around.awaitTimes schedule count).tree := by
  induction count with
  | zero => exact .refl _
  | succ count ih => exact ih.trans (Surroundings.await_lasts schedule _)

namespace Collector

variable {host : Host} {schedule : Schedule} {collector : Collector} {tree : FileTree}
  {queries : Nat}

private theorem Fate.items_nil_or_single (fate : Fate) (path : Path) :
    fate.items path = [] ∨ ∃ item, fate.items path = [item] := by
  cases fate with
  | unopened refusal => exact .inl rfl
  | mismatch found => exact .inr ⟨_, rfl⟩
  | unread refusal => exact .inl rfl
  | included content => exact .inr ⟨_, rfl⟩

/-- A file of the container's directory below a root. -/
def fileIn (collector : Collector) (root : Path) (name : String) : Path :=
  (collector.directoryIn root).append ⟨"", [name]⟩

theorem name_fileIn (collector : Collector) (root : Path) (name : String) :
    (collector.fileIn root name).name = name := by
  simp [fileIn, Path.name, Path.append]

/-- What a collector has still to do: to go to roots, or first to the files of a directory. -/
inductive Stage where
  | atRoots (later : List Path)
  | inDirectory (root : Path) (names : List String) (later : List Path)

/-- Doing what is still to do. -/
def Stage.rest (host : Host) (schedule : Schedule) (collector : Collector) :
    Stage → Collecting Unit
  | atRoots later => later.forM (collectRoot host schedule collector)
  | inDirectory root names later => do
      names.forM fun name => collectFile host schedule collector.owner (collector.fileIn root name)
      later.forM (collectRoot host schedule collector)

theorem Stage.rest_of_fault {root : Path} {name : String} {names : List String}
    {later : List Path} {state last : Collection} {fault : CollectFault}
    (failed : collectFile host schedule collector.owner (collector.fileIn root name) state =
      .error fault last) :
    (inDirectory root (name :: names) later).rest host schedule collector state =
      .error fault last := by
  apply bind_of_error
  rw [forM_cons, failed]

/-- The stages that a collection comes to, with its state there. -/
inductive Reaches (host : Host) (schedule : Schedule) (collector : Collector)
    (start : Collection) : Stage → Collection → Prop where
  | start : Reaches host schedule collector start (.atRoots collector.roots) start
  | missing {root : Path} {later : List Path} {state : Collection} {around : Surroundings}
      (h : Reaches host schedule collector start (.atRoots (root :: later)) state)
      (examined : examineRoot schedule root state.toSurroundings = (around, .ok false)) :
      Reaches host schedule collector start (.atRoots later)
        (afterBarren collector.container state around (.missing root))
  | unlisted {root : Path} {later : List Path} {state : Collection} {between around : Surroundings}
      {refusal : Refusal}
      (h : Reaches host schedule collector start (.atRoots (root :: later)) state)
      (examined : examineRoot schedule root state.toSurroundings = (between, .ok true))
      (listed : list schedule (collector.directoryIn root) between = (around, .error refusal)) :
      Reaches host schedule collector start (.atRoots later)
        (afterBarren collector.container state around
          (.ofRefusal root (collector.directoryIn root) refusal))
  | listed {root : Path} {later : List Path} {state : Collection} {between around : Surroundings}
      {names : List String}
      (h : Reaches host schedule collector start (.atRoots (root :: later)) state)
      (examined : examineRoot schedule root state.toSurroundings = (between, .ok true))
      (listed : list schedule (collector.directoryIn root) between = (around, .ok names)) :
      Reaches host schedule collector start (.inDirectory root names later)
        { state with toSurroundings := around }
  | file {root : Path} {name : String} {names : List String} {later : List Path}
      {state after : Collection}
      (h : Reaches host schedule collector start (.inDirectory root (name :: names) later) state)
      (collected : collectFile host schedule collector.owner (collector.fileIn root name) state =
        .ok () after) :
      Reaches host schedule collector start (.inDirectory root names later) after
  | leave {root : Path} {later : List Path} {state : Collection}
      (h : Reaches host schedule collector start (.inDirectory root [] later) state) :
      Reaches host schedule collector start (.atRoots later) state

/-- A collection from a tree comes to a file. -/
def ComesTo (host : Host) (schedule : Schedule) (collector : Collector) (tree : FileTree)
    (queries : Nat) (root : Path) (name : String) (state : Collection) : Prop :=
  ∃ names later, Reaches host schedule collector { tree := tree, queries := queries }
    (.inDirectory root (name :: names) later) state

/-- The turn of a file in the course of a collection, from one state to the next. -/
structure FileTurn (host : Host) (schedule : Schedule) (collector : Collector) (tree : FileTree)
    (queries : Nat) (root : Path) (name : String) (before after : Collection) : Prop where
  comes : ComesTo host schedule collector tree queries root name before
  collected : collectFile host schedule collector.owner (collector.fileIn root name) before =
    .ok () after

/-- The turn of a file: it is visited, and then it is put down or the collection ends. -/
theorem turn_of_answered (host : Host) (schedule : Schedule) {owner : ExpectedOwner} (path : Path)
    {state : Collection} {expected : String}
    (answered : owner.answer? state.queries = some expected) :
    ∃ fate around, Visited host schedule path expected state.toSurroundings fate around ∧
      ((fate.fault? path (schedule.trouble around.requests) = none ∧
        collectFile host schedule owner path state = .ok () (after owner path state around fate)) ∨
      ∃ fault, fate.fault? path (schedule.trouble around.requests) = some fault ∧
        collectFile host schedule owner path state =
          .error fault (afterFault owner path state around fate)) := by
  have visited := visited_visit host schedule path expected state.toSurroundings
  rcases met : visit host schedule path expected state.toSurroundings with ⟨around, fate⟩
  rw [met] at visited
  refine ⟨fate, around, visited, ?_⟩
  cases ends : fate.fault? path (schedule.trouble around.requests) with
  | none => exact .inl ⟨rfl, collectFile_of_whole answered met ends⟩
  | some fault => exact .inr ⟨fault, rfl, collectFile_of_fault answered met ends⟩

section Course

variable {start state : Collection} {stage : Stage}

/-- From every stage that it comes to, a collection goes on to the same end. -/
theorem Reaches.rest_eq (h : Reaches host schedule collector start stage state) :
    stage.rest host schedule collector state =
      collector.roots.forM (collectRoot host schedule collector) start := by
  induction h with
  | start => rfl
  | missing h examined ih =>
    rw [← ih, Stage.rest, Stage.rest, forM_cons, collectRoot_of_missing examined]
  | unlisted h examined listed ih =>
    rw [← ih, Stage.rest, Stage.rest, forM_cons, collectRoot_of_unlisted examined listed]
  | listed h examined listed ih =>
    rw [← ih]
    exact (bind_of_eq (collectRoot_of_listed examined listed) _).symm
  | file h collected ih =>
    rw [← ih]
    refine bind_of_eq ?_ _
    rw [forM_cons, collected]
  | leave h ih => exact ih

/-- What is to do at two stages of one collection comes to the same. -/
private theorem Reaches.rest_eq_rest {stage' : Stage} {state' : Collection}
    (h : Reaches host schedule collector start stage state)
    (h' : Reaches host schedule collector start stage' state') :
    stage.rest host schedule collector state = stage'.rest host schedule collector state' := by
  rw [h.rest_eq, h'.rest_eq]

/-- The files of a directory are come to one by one, as far as the collection goes. -/
private theorem exists_reached_files {root : Path} {names : List String} {later : List Path}
    (h : Reaches host schedule collector start (.inDirectory root names later) state) :
    (∃ last, Reaches host schedule collector start (.atRoots later) last ∧
      Stage.rest host schedule collector (.inDirectory root names later) state =
        Stage.rest host schedule collector (.atRoots later) last) ∨
    ∃ stage last, Reaches host schedule collector start stage last ∧
      (left (Stage.rest host schedule collector (.inDirectory root names later) state)).items =
        last.items := by
  induction names generalizing state with
  | nil => exact .inl ⟨state, h.leave, rfl⟩
  | cons name names ih =>
    cases answered : collector.owner.answer? state.queries with
    | some expected =>
      obtain ⟨fate, around, -, ⟨-, done⟩ | ⟨fault, -, failed⟩⟩ := turn_of_answered host schedule
        (collector.fileIn root name) answered
      · have next := h.file done
        rw [h.rest_eq_rest next]
        exact ih next
      · exact .inr ⟨_, state, h, by rw [Stage.rest_of_fault failed]; rfl⟩
    | none =>
      exact .inr ⟨_, state, h, by rw [Stage.rest_of_fault (collectFile_of_none answered)]; rfl⟩

/-- A collection comes to a stage after which no item is given any more. -/
private theorem exists_reached {later : List Path}
    (h : Reaches host schedule collector start (.atRoots later) state) :
    ∃ stage last, Reaches host schedule collector start stage last ∧
      (left (Stage.rest host schedule collector (.atRoots later) state)).items = last.items := by
  induction later generalizing state with
  | nil => exact ⟨_, state, h, rfl⟩
  | cons root later ih =>
    rcases examined : examineRoot schedule root state.toSurroundings with
      ⟨between, refusal | _ | _⟩
    · refine ⟨_, state, h, ?_⟩
      rw [Stage.rest, forM_cons, collectRoot_of_refused examined]
      rfl
    · have next := h.missing examined
      rw [h.rest_eq_rest next]
      exact ih next
    · rcases listed : list schedule (collector.directoryIn root) between with
        ⟨around, refusal | names⟩
      · have next := h.unlisted examined listed
        rw [h.rest_eq_rest next]
        exact ih next
      · have next := h.listed examined listed
        rw [h.rest_eq_rest next]
        rcases exists_reached_files next with ⟨last, done, same⟩ | found
        · rw [same]
          exact ih done
        · exact found

end Course

/-- A file whose turn is over was visited, for the owner that the next answer named. -/
theorem visited_of_collected {owner : ExpectedOwner} {path : Path} {before after : Collection}
    (collected : collectFile host schedule owner path before = .ok () after) :
    ∃ expected fate around, owner.answer? before.queries = some expected ∧
      Visited host schedule path expected before.toSurroundings fate around ∧
      after = Collector.after owner path before around fate := by
  cases answered : owner.answer? before.queries with
  | none =>
    rw [collectFile_of_none answered] at collected
    cases collected
  | some expected =>
    obtain ⟨fate, around, visited, ⟨-, done⟩ | ⟨fault, -, failed⟩⟩ :=
      turn_of_answered host schedule path answered
    · rw [done] at collected
      cases collected
      exact ⟨expected, fate, around, rfl, visited, rfl⟩
    · rw [failed] at collected
      cases collected

/-- An item that was given in the turn of a file. -/
def GivenIn (host : Host) (schedule : Schedule) (collector : Collector) (tree : FileTree)
    (queries : Nat) (front : List Archive.Item) (item : Archive.Item) (root : Path) (name : String)
    (before after : Collection) : Prop :=
  FileTurn host schedule collector tree queries root name before after ∧
    before.items = front ∧ after.items = front ++ [item]

/-- No item is there that was not given in the turn of some file. -/
private theorem Reaches.given {stage : Stage} {state : Collection}
    (h : Reaches host schedule collector { tree := tree, queries := queries } stage state)
    {front back : List Archive.Item} {item : Archive.Item}
    (items : state.items = front ++ item :: back) :
    ∃ root name before after,
      GivenIn host schedule collector tree queries front item root name before after := by
  induction h generalizing back with
  | start => simp at items
  | missing h examined ih => exact ih items
  | unlisted h examined listed ih => exact ih items
  | listed h examined listed ih => exact ih items
  | leave h ih => exact ih items
  | @file root name names later state after h collected ih =>
    have turn : FileTurn host schedule collector tree queries root name state after :=
      ⟨⟨names, later, h⟩, collected⟩
    obtain ⟨expected, fate, around, -, -, rfl⟩ := visited_of_collected collected
    have gained : state.items ++ fate.items (collector.fileIn root name) = front ++ item :: back :=
      items
    rcases fate.items_nil_or_single (collector.fileIn root name) with none | ⟨given, one⟩
    · rw [none, List.append_nil] at gained
      exact ih gained
    · rw [one] at gained
      rcases List.eq_nil_or_concat back with rfl | ⟨back, last, rfl⟩
      · obtain ⟨rfl, same⟩ := List.append_inj' gained rfl
        obtain rfl : given = item := by simpa using same
        refine ⟨root, name, state, _, turn, rfl, ?_⟩
        simp only [Collector.after, one]
      · have earlier : state.items = front ++ item :: back := by
          rw [List.concat_eq_append, ← List.cons_append, ← List.append_assoc] at gained
          exact (List.append_inj' gained rfl).1
        exact ih earlier

/-- Nothing is taken back of what was given or skipped. -/
structure Grows (before after : Collection) : Prop where
  items : before.items <+: after.items
  skipped : before.report.skipped <+: after.report.skipped

namespace Grows

variable {first second third : Collection}

private theorem trans (h : Grows first second) (h' : Grows second third) : Grows first third :=
  ⟨h.items.trans h'.items, h.skipped.trans h'.skipped⟩

private theorem of_gains {owner : ExpectedOwner} {items : List Archive.Item} {marks : List Mark}
    {missing : List String} {files : Nat} (h : Gains owner items marks missing files first second) :
    Grows first second where
  items := by
    rw [h.items]
    exact List.prefix_append _ _
  skipped := by
    rw [h.skipped]
    exact List.prefix_append _ _

end Grows

private theorem left_ended (ending : Option CollectFault) (state : Collection) :
    left (ended ending state) = state := by
  cases ending <;> rfl

private theorem grows_rest (host : Host) (schedule : Schedule) (collector : Collector)
    (stage : Stage) (state : Collection) :
    Grows state (left (stage.rest host schedule collector state)) := by
  have roots (later : List Path) (state : Collection) :
      Grows state (left (later.forM (collectRoot host schedule collector) state)) := by
    obtain ⟨stops, ending, around, survey⟩ := exists_survey host schedule collector later
      state.queries state.toSurroundings
    obtain ⟨last, made, -, gains⟩ := forM_of_survey survey state rfl fun _ => rfl
    rw [made, left_ended]
    exact .of_gains gains
  cases stage with
  | atRoots later => exact roots later state
  | inDirectory root names later =>
    obtain ⟨visits, ending, around, round⟩ := exists_round host schedule collector.owner
      (collector.directoryIn root) names state.queries state.toSurroundings
    obtain ⟨between, made, -, gains⟩ := forM_of_round round state rfl fun _ => rfl
    have here := Grows.of_gains gains
    cases ending with
    | none =>
      have goesOn : Stage.rest host schedule collector (.inDirectory root names later) state =
          later.forM (collectRoot host schedule collector) between := bind_of_ok made _
      rw [goesOn]
      exact here.trans (roots later between)
    | some fault =>
      have stops : Stage.rest host schedule collector (.inDirectory root names later) state =
          .error fault between := bind_of_error made _
      rw [stops]
      exact here

/-- The summary of a collection is only in the log. -/
private theorem left_produce (collector : Collector) (host : Host) (schedule : Schedule)
    (tree : FileTree) (queries : Nat) :
    (left (collector.produce host schedule tree queries)).items =
      (left (collector.roots.forM (collectRoot host schedule collector)
        { tree := tree, queries := queries })).items ∧
    (left (collector.produce host schedule tree queries)).report =
      (left (collector.roots.forM (collectRoot host schedule collector)
        { tree := tree, queries := queries })).report := by
  rw [produce_eq]
  split <;> rename_i made <;> rw [made] <;> exact ⟨rfl, rfl⟩

/-- What was given or skipped up to a stage is there in the end. -/
private theorem Reaches.grows {stage : Stage} {state : Collection}
    (h : Reaches host schedule collector { tree := tree, queries := queries } stage state) :
    Grows state (left (collector.produce host schedule tree queries)) := by
  have grows := grows_rest host schedule collector stage state
  obtain ⟨items, report⟩ := left_produce collector host schedule tree queries
  rw [h.rest_eq] at grows
  constructor
  · rw [items]
    exact grows.items
  · rw [report]
    exact grows.skipped

/-- Every item of a record was given in the turn of some file. -/
theorem given_of_produce {front back : List Archive.Item} {item : Archive.Item}
    (items : (left (collector.produce host schedule tree queries)).items = front ++ item :: back) :
    ∃ root name before after,
      GivenIn host schedule collector tree queries front item root name before after := by
  have begun : Reaches host schedule collector { tree := tree, queries := queries }
      (.atRoots collector.roots) { tree := tree, queries := queries } := .start
  obtain ⟨stage, last, reached, same⟩ := exists_reached begun
  rw [(left_produce collector host schedule tree queries).1] at items
  exact reached.given (same.symm.trans items)

/-- A path leads to a regular file of a user when it is opened. -/
def OpensFile (tree : FileTree) (path : Path) (number owner : Nat) : Prop :=
  tree.openNode path.text = .ok number ∧
    ∃ content mode, tree.node? number = some ⟨.file content, owner, mode⟩

/-- The content of a file was read while others could change it: the file under the number is there at
each read, and each byte was read in its own place, in one of the reads that were made. If the file was
only written to behind its end, the content is a front of what it holds after the last of them. -/
structure ReadAmid (schedule : Schedule) (name : String) (number last : Nat) (opened : Surroundings)
    (content : Bytes) (after : Surroundings) : Prop where
  there : ∀ turn, ((reading schedule name opened).awaitTimes schedule (turn + 1)).tree.held? number =
    some (heldAt schedule name number opened turn)
  placed : ∀ (place : Nat) (byte : UInt8), content[place]? = some byte →
    ∃ turn, turn < last ∧ (heldAt schedule name number opened turn)[place]? = some byte
  made : content ≠ [] → after = (reading schedule name opened).awaitTimes schedule last
  front : (∀ turn, heldAt schedule name number opened turn <+:
      heldAt schedule name number opened (turn + 1)) →
    ∃ held, after.tree.held? number = some held ∧ content <+: held

/-- The content was read from a file that the path led to when it was opened, and that belonged to
the expected owner then. -/
def ReadFrom (host : Host) (schedule : Schedule) (path : Path) (expected : String) (content : Bytes)
    (before after : Surroundings) : Prop :=
  ∃ number owner last, OpensFile (before.await schedule).tree path number owner ∧
    host.users.nameOf owner = expected ∧
    ReadAmid schedule path.name number last
      ((before.await schedule).note ⟨number, host.users.nameOf owner, expected⟩) content after

/-- A file that is open is there under its number at every read. -/
private theorem held?_reading {name : String} {number : Nat} {opened : Surroundings} {held : Bytes}
    (found : opened.tree.held? number = some held) (turn : Nat) :
    ((reading schedule name opened).awaitTimes schedule turn).tree.held? number =
      some (((reading schedule name opened).awaitTimes schedule turn).tree.content number) := by
  have changed := Change.applyAll_lasts (schedule.eventFor name).changes (opened.await schedule).tree
  have lasts := ((opened.await_lasts schedule).trans changed).trans
    (Surroundings.awaitTimes_lasts schedule turn (reading schedule name opened))
  obtain ⟨held', found'⟩ := lasts number held found
  obtain ⟨owner, mode, node⟩ := FileTree.held?_eq_some.1 found'
  have content := FileTree.content_of_node? node
  rw [found', content]
  rfl

/-- What is taken of an open file is read from it. -/
private theorem readAmid_of_snapped {name : String} {number : Nat} {opened after : Surroundings}
    {content held : Bytes} (h : Snapped schedule name number opened (.ok content) after)
    (found : opened.tree.held? number = some held) :
    ∃ last, ReadAmid schedule name number last opened content after := by
  generalize taken : Except.ok content = result at h
  cases h with
  | empty nothing =>
    cases taken
    obtain ⟨held', found'⟩ := opened.await_lasts schedule number held found
    refine ⟨0, fun turn => held?_reading found (turn + 1), ?_, fun something => absurd rfl something, ?_⟩
    · simp
    · exact fun _ => ⟨held', found', List.nil_prefix⟩
  | disturbed => cases taken
  | @copied last _ something changed copies =>
    have spooled := copies.spooled (Snapshot.spooled_nil _ _ 0) taken.symm
    refine ⟨last, fun turn => held?_reading found (turn + 1), spooled.placed, fun _ => rfl, ?_⟩
    intro grown
    refine ⟨_, held?_reading found last, ?_⟩
    cases last with
    | zero =>
      have nothing : content = [] := by
        by_contra something
        obtain ⟨byte, bytes, rfl⟩ := List.exists_cons_of_ne_nil something
        obtain ⟨turn, impossible, -⟩ := spooled.placed 0 byte rfl
        exact absurd impossible (Nat.not_lt_zero turn)
      rw [nothing]
      exact List.nil_prefix
    | succ turn =>
      rw [List.prefix_iff_getElem?]
      intro place inside
      obtain ⟨earlier, made, found⟩ := spooled.placed place _ (List.getElem?_eq_getElem inside)
      obtain ⟨there, same⟩ := List.getElem?_eq_some_iff.1 found
      rw [← same]
      have front := Snapshot.prefix_of_grown grown (Nat.le_of_lt_succ made)
      exact List.prefix_iff_getElem?.1 front place there

section Turn

variable {owner : ExpectedOwner} {path : Path} {expected : String} {before after : Collection}

/-- What is included was read from the file that was opened and found to be the expected owner's. -/
private theorem readFrom_of_visited {content : Bytes} {before around : Surroundings}
    (visited : Visited host schedule path expected before (.included content) around) :
    ReadFrom host schedule path expected content before around := by
  cases visited with
  | @included number user mode old read _ opened regular own whole =>
    obtain ⟨last, origin⟩ := readAmid_of_snapped whole
      (FileTree.held?_eq_some.2 ⟨user, mode, regular⟩)
    exact ⟨number, user, last, ⟨opened, old, mode, regular⟩, own, origin⟩

/-- A turn that gives an entry read it from the file that it opened. -/
theorem read_of_collected {name : String} {content : Bytes}
    (collected : collectFile host schedule owner path before = .ok () after)
    (items : after.items = before.items ++ [.entry name content]) :
    name = path.name ∧ ∃ expected, owner.answer? before.queries = some expected ∧
      ReadFrom host schedule path expected content before.toSurroundings after.toSurroundings := by
  obtain ⟨expected, fate, around, answered, visited, rfl⟩ := visited_of_collected collected
  have gave : fate.items path = [.entry name content] := List.append_cancel_left items
  cases fate with
  | included read =>
    cases gave
    exact ⟨rfl, expected, answered, readFrom_of_visited visited⟩
  | unopened | mismatch | unread => cases gave

/-- A name that leads to a file of another owner comes to a mismatch. -/
private theorem mismatch_of_foreign {before around : Surroundings} {fate : Fate} {number user : Nat}
    (visited : Visited host schedule path expected before fate around)
    (opens : OpensFile (before.await schedule).tree path number user)
    (other : host.users.nameOf user ≠ expected) :
    fate = .mismatch ⟨path.text, host.users.nameOf user, expected⟩ := by
  obtain ⟨opened, content, mode, regular⟩ := opens
  have same := (visit_of_visited visited).symm.trans
    (visit_of_visited (.foreign opened regular other))
  exact congrArg (·.2) same

/-- A name that leads to no regular file comes to nothing. -/
private theorem unopened_of_irregular {before around : Surroundings} {fate : Fate}
    (visited : Visited host schedule path expected before fate around)
    (irregular : ∀ number user, ¬ OpensFile (before.await schedule).tree path number user) :
    ∃ refusal, fate = .unopened refusal := by
  cases visited with
  | refused | irregular => exact ⟨_, rfl⟩
  | foreign opened regular | unread opened regular | included opened regular =>
    exact absurd ⟨opened, _, _, regular⟩ (irregular _ _)

end Turn

/-- A collection ends in the turn of a file. Nothing of the file stands in the record but a front of
what the visit would have come to. -/
structure EndsAt (host : Host) (schedule : Schedule) (collector : Collector) (tree : FileTree)
    (queries : Nat) (root : Path) (name expected : String) (before : Collection) (fate : Fate)
    (around : Surroundings) (fault : CollectFault) : Prop where
  visited : Visited host schedule (collector.fileIn root name) expected before.toSurroundings fate
    around
  front : fault.written <+: Visit.bytes ⟨collector.directoryIn root, name, expected, fate⟩
  ends : ∃ final, collector.produce host schedule tree queries = .error fault final ∧
    final.items = before.items

/-- A collection goes on after the turn of a file or ends in it. -/
private theorem goes_on_or_ends {root : Path} {name expected : String} {before : Collection}
    (comes : ComesTo host schedule collector tree queries root name before)
    (answered : collector.owner.answer? before.queries = some expected) :
    ∃ fate around,
      Visited host schedule (collector.fileIn root name) expected before.toSurroundings fate around ∧
      (FileTurn host schedule collector tree queries root name before
          (after collector.owner (collector.fileIn root name) before around fate) ∨
        (∀ refusal, fate ≠ .unopened refusal) ∧ ∃ fault, EndsAt host schedule collector tree queries
          root name expected before fate around fault) := by
  obtain ⟨fate, around, visited, ⟨-, done⟩ | ⟨fault, fails, failed⟩⟩ :=
    turn_of_answered host schedule (collector.fileIn root name) answered
  · exact ⟨fate, around, visited, .inl ⟨comes, done⟩⟩
  · refine ⟨fate, around, visited, .inr ⟨?_, fault, visited, ?_, ?_⟩⟩
    · rintro refusal rfl
      cases fails
    · exact Visit.written_prefix
        ((Visit.fault?_eq ⟨collector.directoryIn root, name, expected, fate⟩ _).symm.trans fails)
    · obtain ⟨names, later, reached⟩ := comes
      have stopped := reached.rest_eq.symm.trans (Stage.rest_of_fault failed)
      refine ⟨afterFault collector.owner (collector.fileIn root name) before around fate, ?_, rfl⟩
      rw [produce_eq, stopped]

/-- Whatever others do to names and files in the meantime, what stands in an entry was read from the
file that its name led to when it was opened, byte by byte in its place, and that file belonged to the
expected owner when it was opened. A name that led to a file of another owner is told of in a
diagnostic and nothing else; one that led to no regular file is skipped. Of a file at which the
collection ends, no more than a front of this stands in the record. -/
theorem checked_is_read (collector : Collector) (host : Host) (schedule : Schedule)
    (tree : FileTree) (queries : Nat) :
    (∀ front name content back,
      (left (collector.produce host schedule tree queries)).items =
        front ++ .entry name content :: back →
      ∃ root before after expected,
        GivenIn host schedule collector tree queries front (.entry name content) root name before
          after ∧
        collector.owner.answer? before.queries = some expected ∧
        ReadFrom host schedule (collector.fileIn root name) expected content before.toSurroundings
          after.toSurroundings) ∧
    ∀ root name before expected,
      ComesTo host schedule collector tree queries root name before →
      collector.owner.answer? before.queries = some expected →
      (∃ after, FileTurn host schedule collector tree queries root name before after ∧
        Grows after (left (collector.produce host schedule tree queries)) ∧
        (∀ number owner,
          OpensFile (before.await schedule).tree (collector.fileIn root name) number owner →
          host.users.nameOf owner ≠ expected →
          after.items = before.items ++ [.diagnostic (OwnershipMismatch.message
            ⟨(collector.fileIn root name).text, host.users.nameOf owner, expected⟩)]) ∧
        ((∀ number owner,
          ¬ OpensFile (before.await schedule).tree (collector.fileIn root name) number owner) →
          after.items = before.items ∧
          after.report.skipped = before.report.skipped ++ [(collector.fileIn root name).text])) ∨
      ∃ fate around fault,
        EndsAt host schedule collector tree queries root name expected before fate around fault ∧
        (∀ content, fate = .included content → ReadFrom host schedule (collector.fileIn root name)
          expected content before.toSurroundings around) ∧
        (∀ number owner,
          OpensFile (before.await schedule).tree (collector.fileIn root name) number owner →
          host.users.nameOf owner ≠ expected →
          fate = .mismatch ⟨(collector.fileIn root name).text, host.users.nameOf owner, expected⟩) ∧
        ∃ number owner,
          OpensFile (before.await schedule).tree (collector.fileIn root name) number owner := by
  constructor
  · intro front name content back split
    obtain ⟨root, name', before, after, turn, rfl, gave⟩ := given_of_produce split
    obtain ⟨named, expected, answered, origin⟩ := read_of_collected turn.collected gave
    obtain rfl : name = name' := named.trans (collector.name_fileIn root name')
    exact ⟨root, before, after, expected, ⟨turn, rfl, gave⟩, answered, origin⟩
  · intro root name before expected comes answered
    obtain ⟨fate, around, visited, turn | ⟨opened, fault, ends⟩⟩ := goes_on_or_ends comes answered
    · refine .inl ⟨_, turn, ?_, ?_, ?_⟩
      · obtain ⟨names, later, reached⟩ := comes
        exact (reached.file turn.collected).grows
      · intro number owner opens other
        rw [mismatch_of_foreign visited opens other]
        rfl
      · intro irregular
        obtain ⟨refusal, rfl⟩ := unopened_of_irregular visited irregular
        exact ⟨List.append_nil _, rfl⟩
    · refine .inr ⟨fate, around, fault, ends, ?_, ?_, ?_⟩
      · rintro content rfl
        exact readFrom_of_visited visited
      · intro number owner opens other
        exact mismatch_of_foreign visited opens other
      · by_contra irregular
        simp only [not_exists] at irregular
        obtain ⟨refusal, rfl⟩ := unopened_of_irregular visited irregular
        exact opened refusal rfl

/-- Once the log file was opened and found to be the user's own, a link to the key takes its name. -/
def swappingOpen : Schedule where
  onRead := [("stdout", {
    changes := [
      .remove "/logs/application_1_0002/container_1_0002_03_000004/stdout",
      .symlink "/logs/application_1_0002/container_1_0002_03_000004/stdout" "/key"] })]

/-- By the time the log file is read, its name leads to the key, and still it is read. -/
theorem open_file_read :
    ((left (keyCollector.produce ⟨[(0, "root")], {}⟩ swappingOpen (keyTree [1]) 0)).tree.openNode
      "/logs/application_1_0002/container_1_0002_03_000004/stdout").toOption = some 5 ∧
    (left (keyCollector.produce ⟨[(0, "root")], {}⟩ swappingOpen (keyTree [1]) 0)).items =
      [.entry "stdout" [104, 105]] ∧
    ∃ root before after expected,
      GivenIn ⟨[(0, "root")], {}⟩ swappingOpen keyCollector (keyTree [1]) 0 []
        (.entry "stdout" [104, 105]) root "stdout" before after ∧
      keyCollector.owner.answer? before.queries = some expected ∧
      ReadFrom ⟨[(0, "root")], {}⟩ swappingOpen (keyCollector.fileIn root "stdout") expected
        [104, 105] before.toSurroundings after.toSurroundings := by
  have items : (left (keyCollector.produce ⟨[(0, "root")], {}⟩ swappingOpen (keyTree [1]) 0)).items =
      [.entry "stdout" [104, 105]] := by decide +kernel
  refine ⟨by decide +kernel, items, ?_⟩
  have origins := (checked_is_read keyCollector ⟨[(0, "root")], {}⟩ swappingOpen (keyTree [1]) 0).1
  exact origins [] "stdout" [104, 105] [] items

end Collector

end ContainerLogs
