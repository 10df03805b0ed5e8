import ContainerLogs.Proofs.Collection.Copying
import ContainerLogs.Proofs.Collection.Listing
import ContainerLogs.Proofs.Collection.Steps

/-!
What the requests of a collection come to: taking a snapshot of an open file, visiting a listed
file, and listing a directory. Each ends in exactly one of the ways that are told here, for the
reasons given there.
-/
namespace ContainerLogs.Collector

/-- The surroundings in which an opened file comes to be read: its size was taken, and then it was
changed as it is when it is first read. -/
def reading (schedule : Schedule) (name : String) (opened : Surroundings) : Surroundings :=
  { opened.await schedule with
    tree := (Change.applyAll (opened.await schedule).tree (schedule.eventFor name).changes).1 }

/-- What an opened file holds at each read of it, before each of which others may act. -/
def heldAt (schedule : Schedule) (name : String) (number : Nat) (opened : Surroundings) (turn : Nat) :
    Bytes :=
  (((reading schedule name opened).awaitTimes schedule (turn + 1)).tree).content number

/-- What a snapshot of an open file comes to. Its size is taken first; then it is copied, as far as
that size, from what it holds at each read. -/
inductive Snapped (schedule : Schedule) (name : String) (number : Nat) (before : Surroundings) :
    Except Refusal Bytes → Surroundings → Prop where
  | empty (nothing : (before.await schedule).tree.content number = []) :
      Snapped schedule name number before (.ok []) (before.await schedule)
  | disturbed {refusal : Refusal}
      (something : (before.await schedule).tree.content number ≠ [])
      (changed : (Change.applyAll (before.await schedule).tree (schedule.eventFor name).changes).2 =
        some refusal) :
      Snapped schedule name number before (.error refusal) (reading schedule name before)
  | copied {last : Nat} {result : Except Refusal Bytes}
      (something : (before.await schedule).tree.content number ≠ [])
      (changed : (Change.applyAll (before.await schedule).tree (schedule.eventFor name).changes).2 =
        none)
      (copies : Snapshot.Copies (heldAt schedule name number before)
        (schedule.eventFor name).failure ((before.await schedule).tree.content number).length 0 []
        last result) :
      Snapped schedule name number before result
        ((reading schedule name before).awaitTimes schedule last)

private theorem readsAmid_reading (schedule : Schedule) (name : String) (number : Nat)
    (opened : Surroundings) (failure : Option (Errno × Nat)) :
    Snapshot.readsAmid schedule failure number (reading schedule name opened) = fun turn =>
      Snapshot.readAt (heldAt schedule name number opened turn) failure := rfl

theorem snapped_take (schedule : Schedule) (name : String) (number : Nat) (before : Surroundings) :
    Snapped schedule name number before (Snapshot.take schedule name number before).2
      (Snapshot.take schedule name number before).1 := by
  have start : reading schedule name before = { before.await schedule with tree :=
    (Change.applyAll (before.await schedule).tree (schedule.eventFor name).changes).1 } := rfl
  unfold Snapshot.take
  simp only
  split
  · rename_i nothing
    exact .empty (List.length_eq_zero_iff.1 nothing)
  · rename_i something
    have something : (before.await schedule).tree.content number ≠ [] :=
      fun nothing => something (List.length_eq_zero_iff.2 nothing)
    unfold Snapshot.readOpen
    split <;> rename_i changed <;> rw [changed] at start <;> simp only [← start]
    · exact .disturbed something (congrArg (·.2) changed)
    · refine .copied something (congrArg (·.2) changed) ?_
      simp only [readsAmid_reading]
      exact Snapshot.copies_copy _ _ _

theorem take_of_snapped {schedule : Schedule} {name : String} {number : Nat}
    {before after : Surroundings} {result : Except Refusal Bytes}
    (h : Snapped schedule name number before result after) :
    Snapshot.take schedule name number before = (after, result) := by
  have start : reading schedule name before = { before.await schedule with tree :=
    (Change.applyAll (before.await schedule).tree (schedule.eventFor name).changes).1 } := rfl
  unfold Snapshot.take
  cases h with
  | empty nothing => simp only [nothing, List.length_nil, if_true]
  | disturbed something changed =>
    simp only [List.length_eq_zero_iff, if_neg something, Snapshot.readOpen]
    split <;> rename_i made <;> rw [made] at start changed
    · cases changed
      rw [start]
    · cases changed
  | @copied last result something changed copies =>
    have copied := Snapshot.copy_of_copies copies
    rw [← readsAmid_reading] at copied
    simp only [List.length_eq_zero_iff, if_neg something, Snapshot.readOpen]
    split <;> rename_i made <;> rw [made] at start changed
    · cases changed
    · simp only [← start, copied]
      cases result <;> rfl

/-- What a visit of a listed file comes to. The file is opened, and read only if it is a regular file
of the expected owner. -/
inductive Visited (host : Host) (schedule : Schedule) (path : Path) (expected : String)
    (before : Surroundings) : Fate → Surroundings → Prop where
  | refused {refusal : Refusal}
      (unopened : (before.await schedule).tree.openNode path.text = .error refusal) :
      Visited host schedule path expected before (.unopened refusal) (before.await schedule)
  | irregular {number : Nat}
      (opened : (before.await schedule).tree.openNode path.text = .ok number)
      (irregular : ∀ content owner mode,
        (before.await schedule).tree.node? number ≠ some ⟨.file content, owner, mode⟩) :
      Visited host schedule path expected before
        (.unopened (.os .invalid (some "Not a regular file") [path.text])) (before.await schedule)
  | foreign {number owner mode : Nat} {content : Bytes}
      (opened : (before.await schedule).tree.openNode path.text = .ok number)
      (regular : (before.await schedule).tree.node? number = some ⟨.file content, owner, mode⟩)
      (other : host.users.nameOf owner ≠ expected) :
      Visited host schedule path expected before
        (.mismatch ⟨path.text, host.users.nameOf owner, expected⟩)
        ((before.await schedule).note ⟨number, host.users.nameOf owner, expected⟩)
  | unread {number owner mode : Nat} {content : Bytes} {refusal : Refusal} {after : Surroundings}
      (opened : (before.await schedule).tree.openNode path.text = .ok number)
      (regular : (before.await schedule).tree.node? number = some ⟨.file content, owner, mode⟩)
      (own : host.users.nameOf owner = expected)
      (broken : Snapped schedule path.name number
        ((before.await schedule).note ⟨number, host.users.nameOf owner, expected⟩)
        (.error refusal) after) :
      Visited host schedule path expected before (.unread refusal) after
  | included {number owner mode : Nat} {content read : Bytes} {after : Surroundings}
      (opened : (before.await schedule).tree.openNode path.text = .ok number)
      (regular : (before.await schedule).tree.node? number = some ⟨.file content, owner, mode⟩)
      (own : host.users.nameOf owner = expected)
      (whole : Snapped schedule path.name number
        ((before.await schedule).note ⟨number, host.users.nameOf owner, expected⟩) (.ok read) after) :
      Visited host schedule path expected before (.included read) after

theorem visited_visit (host : Host) (schedule : Schedule) (path : Path) (expected : String)
    (before : Surroundings) : Visited host schedule path expected before
      (visit host schedule path expected before).2 (visit host schedule path expected before).1 := by
  unfold visit Opening.openRegular
  simp only
  cases opened : (before.await schedule).tree.openNode path.text with
  | error refusal => exact .refused opened
  | ok number =>
    simp only [bind, Except.bind]
    rcases found : (before.await schedule).tree.node? number with _ | ⟨kind, owner, mode⟩
    · exact .irregular opened (by simp [found])
    cases kind with
    | directory | symlink | fifo => exact .irregular opened (by simp [found])
    | file content =>
      simp only [Opening.judge]
      by_cases own : host.users.nameOf owner = expected
      · simp only [if_pos own]
        have snapped := snapped_take schedule path.name number
          ((before.await schedule).note ⟨number, host.users.nameOf owner, expected⟩)
        generalize Snapshot.take schedule path.name number
          ((before.await schedule).note ⟨number, host.users.nameOf owner, expected⟩) = taken
          at snapped
        obtain ⟨after, refusal | read⟩ := taken
        · exact .unread opened found own snapped
        · exact .included opened found own snapped
      · simp only [if_neg own]
        exact .foreign opened found own

theorem visit_of_visited {host : Host} {schedule : Schedule} {path : Path} {expected : String}
    {before after : Surroundings} {fate : Fate}
    (h : Visited host schedule path expected before fate after) :
    visit host schedule path expected before = (after, fate) := by
  unfold visit Opening.openRegular
  cases h with
  | refused unopened => simp only [unopened, bind, Except.bind]
  | @irregular number opened irregular =>
    simp only [opened, bind, Except.bind]
    rcases found : (before.await schedule).tree.node? number with _ | ⟨kind, owner, mode⟩
    · rfl
    cases kind with
    | directory | symlink | fifo => rfl
    | file content => exact absurd found (irregular _ _ _)
  | foreign opened regular other =>
    simp only [opened, bind, Except.bind, regular, Opening.judge, if_neg other]
  | unread opened regular own broken =>
    simp only [opened, bind, Except.bind, regular, Opening.judge, if_pos own, take_of_snapped broken]
  | included opened regular own whole =>
    simp only [opened, bind, Except.bind, regular, Opening.judge, if_pos own, take_of_snapped whole]

/-- What listing the directory below a root comes to. -/
inductive Listed (schedule : Schedule) (directory : Path) (before : Surroundings) :
    Except Refusal (List String) → Surroundings → Prop where
  | refused {refusal : Refusal} (unlisted : Unlisted (before.await schedule).tree directory refusal) :
      Listed schedule directory before (.error refusal) (before.await schedule)
  | disturbed {names : List String} {refusal : Refusal} {after : Surroundings}
      (lists : Lists (before.await schedule).tree directory names)
      (changed : (before.await schedule).afterListing schedule = (after, some refusal)) :
      Listed schedule directory before (.error refusal) after
  | names {names : List String} {after : Surroundings}
      (lists : Lists (before.await schedule).tree directory names)
      (changed : (before.await schedule).afterListing schedule = (after, none)) :
      Listed schedule directory before (.ok names) after

theorem listed_list (schedule : Schedule) (directory : Path) (before : Surroundings) :
    Listed schedule directory before (list schedule directory before).2
      (list schedule directory before).1 := by
  unfold list
  simp only
  cases listing : listFiles (before.await schedule).tree directory with
  | error refusal => exact .refused (listFiles_eq_error_iff.1 listing)
  | ok names =>
    have lists := listFiles_eq_ok_iff.1 listing
    rcases changed : (before.await schedule).afterListing schedule with ⟨after, _ | refusal⟩
    · exact .names lists changed
    · exact .disturbed lists changed

theorem list_of_listed {schedule : Schedule} {directory : Path} {before after : Surroundings}
    {result : Except Refusal (List String)} (h : Listed schedule directory before result after) :
    list schedule directory before = (after, result) := by
  unfold list
  cases h with
  | refused unlisted => simp only [listFiles_of_unlisted unlisted]
  | disturbed lists changed => simp only [listFiles_of_lists lists, changed]
  | names lists changed => simp only [listFiles_of_lists lists, changed]

end ContainerLogs.Collector
