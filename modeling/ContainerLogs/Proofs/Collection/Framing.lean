import ContainerLogs.Proofs.Collection.Copying
import ContainerLogs.Proofs.Collection.Provenance

/-!
The frame of an entry. The length before a content is the count of the copy that follows it, whatever
others write to the file in the meantime; a file of which the copy breaks off leaves nothing in the
record.
-/
namespace ContainerLogs.Collector

open Snapshot (Copied Failed Follows Reads Spool Spooled copy copied_of_copy failed_of_copy)

/-- What becomes of a file of which a copy was begun. -/
def Fate.ofCopy : Except Refusal Spool → Fate
  | .ok spool => .included spool.bytes
  | .error refusal => .unread refusal

/-- A copy stands in the record, under the name of its file and behind its own count. -/
structure Entered (path : Path) (spool : Spool) (before after : Collection) : Prop where
  value : after.value = before.value ++
    (Wire.int (Text.Utf8.encode path.name).length ++ (Text.Utf8.encode path.name ++
      (Wire.long spool.count ++ spool.bytes)))
  report : after.report =
    { before.report with included := before.report.included ++ [path.text] }

/-- A file left nothing in the record and is told of as skipped. -/
structure PassedOver (path : Path) (before after : Collection) : Prop where
  items : after.items = before.items
  value : after.value = before.value
  report : after.report = { before.report with skipped := before.report.skipped ++ [path.text] }

/-- What a copy holds of a file that held one thing after another. The bytes are counted and no more
than the size that was taken; each was read in its own place. There are fewer only if the file had
ended by the last read. If it was only written to behind its end, they are a front of what it held
then. -/
structure CopyOf (contents : Nat → Bytes) (size : Nat) (spool : Spool) (last : Nat) : Prop
    extends Spooled contents size last spool where
  complete : spool.count < size → (contents last).length ≤ spool.count
  front : (∀ turn, contents turn <+: contents (turn + 1)) →
    spool.bytes = (contents last).take size ∧ spool.count = min size (contents last).length

private theorem copyOf_of_copied {reads : Reads} {contents : Nat → Bytes} {size last : Nat}
    {spool : Spool} (follows : Follows reads contents)
    (copied : Copied reads contents size last spool) :
    CopyOf contents size spool last where
  toSpooled := copied.toSpooled
  complete := copied.complete follows
  front grown := by
    have bytes := copied.eq_take_of_grown grown follows
    refine ⟨bytes, ?_⟩
    rw [copied.counted, bytes, List.length_take]

/-- What the copying of a file comes to in the record. -/
structure PutDown (reads : Reads) (contents : Nat → Bytes) (size : Nat) (path : Path)
    (before after : Collection) : Prop where
  whole : ∀ spool, (copy reads size).2 = .ok spool →
    Entered path spool before after ∧ ∃ last, CopyOf contents size spool last
  broken : ∀ refusal, (copy reads size).2 = .error refusal →
    PassedOver path before after ∧ ∃ turn spool, Failed reads contents size turn spool refusal

/-- A file at which a collection ended. It is not in the report, and of a whole copy the record has no
more than a front of the frame; of one that broke off, it has nothing. -/
structure Abandoned (reads : Reads) (size : Nat) (path : Path) (trouble : Trouble)
    (before : Collection) (fault : CollectFault) (after : Collection) : Prop where
  items : after.items = before.items
  report : after.report = before.report
  whole : ∀ spool, (copy reads size).2 = .ok spool →
    fault.written <+: Wire.int (Text.Utf8.encode path.name).length ++
      (Text.Utf8.encode path.name ++ (Wire.long spool.count ++ spool.bytes)) ∧
    ((∃ errno, Fails trouble errno) ∨ 2 ^ 31 ≤ (Text.Utf8.encode path.name).length ∨
      2 ^ 63 ≤ spool.count)
  broken : ∀ refusal, (copy reads size).2 = .error refusal →
    fault.written = [] ∧ ∃ errno, trouble.closing = some errno

variable {reads : Reads} {contents : Nat → Bytes} {size : Nat} {path : Path}
  {before after : Collection}

/-- Only the items and the report tell what a copy came to. -/
private theorem putDown_of_fate (follows : Follows reads contents)
    (items : after.items = before.items ++ (Fate.ofCopy (copy reads size).2).items path)
    (report : after.report = (Fate.ofCopy (copy reads size).2).enter path before.report) :
    PutDown reads contents size path before after := by
  have value : after.value = before.value ++
      Archive.Item.bytesOfAll ((Fate.ofCopy (copy reads size).2).items path) := by
    unfold Collection.value
    rw [items, Archive.Item.bytesOfAll_append]
  constructor
  · intro spool whole
    obtain ⟨last, copied⟩ := copied_of_copy follows whole
    rw [whole] at value report
    refine ⟨⟨?_, report⟩, last, copyOf_of_copied follows copied⟩
    rw [value, copied.counted]
    simp [Fate.ofCopy, Fate.items, Archive.Item.bytesOfAll, Archive.Item.bytes, Wire.counted]
  · intro refusal broken
    rw [broken] at items value report
    refine ⟨⟨?_, ?_, report⟩, failed_of_copy follows broken⟩
    · rw [items]
      exact List.append_nil _
    · rw [value]
      exact List.append_nil _

/-- A snapshot is a copy, by reads of what the file holds at each of them. -/
private theorem exists_copy_of_snapped {schedule : Schedule} {name : String} {number : Nat}
    {before after : Surroundings} {result : Except Refusal Bytes}
    (h : Snapped schedule name number before result after) :
    ∃ reads, Follows reads (heldAt schedule name number before) ∧
      (copy reads ((before.await schedule).tree.content number).length).2.map (·.bytes) = result := by
  cases h with
  | empty nothing =>
    refine ⟨_, Snapshot.follows_readAt _ none, ?_⟩
    rw [nothing, copy, Snapshot.copyOn]
    rfl
  | @disturbed refusal something changed =>
    refine ⟨_, Snapshot.follows_refused refusal _, ?_⟩
    have positive := List.length_pos_iff.2 something
    rw [copy, Snapshot.copyOn, if_pos positive]
    rfl
  | @copied last _ something changed copies =>
    refine ⟨_, Snapshot.follows_readAt _ (schedule.eventFor name).failure, ?_⟩
    rw [Snapshot.copy_of_copies copies]
    cases result <;> rfl

variable {host : Host} {schedule : Schedule} {owner : ExpectedOwner} {expected : String}

/-- How large an opened file is when its size is taken, which is once others acted again. -/
def sizeTaken (schedule : Schedule) (around : Surroundings) (number : Nat) : Nat :=
  (((around.await schedule).await schedule).tree.content number).length

/-- A file that is the expected owner's when it is opened is put aside, and that decides its fate. -/
private theorem snapped_of_visited {around later : Surroundings} {fate : Fate} {number user : Nat}
    (visited : Visited host schedule path expected around fate later)
    (opens : OpensFile (around.await schedule).tree path number user)
    (own : host.users.nameOf user = expected) :
    ∃ result, Snapped schedule path.name number
        ((around.await schedule).note ⟨number, host.users.nameOf user, expected⟩) result later ∧
      ∀ spooled, spooled.map (·.bytes) = result → fate = .ofCopy spooled := by
  obtain ⟨opened, content, mode, regular⟩ := opens
  cases visited with
  | refused unopened =>
    rw [opened] at unopened
    cases unopened
  | irregular opened' irregular =>
    cases opened.symm.trans opened'
    exact absurd regular (irregular _ _ _)
  | foreign opened' regular' other =>
    cases opened.symm.trans opened'
    cases regular.symm.trans regular'
    exact absurd own other
  | unread opened' regular' _ broken =>
    cases opened.symm.trans opened'
    cases regular.symm.trans regular'
    refine ⟨_, broken, ?_⟩
    rintro (refusal | spool) same
    · cases same
      rfl
    · cases same
  | included opened' regular' _ whole =>
    cases opened.symm.trans opened'
    cases regular.symm.trans regular'
    refine ⟨_, whole, ?_⟩
    rintro (refusal | spool) same
    · cases same
    · cases same
      rfl

/-- The turn of a file that is the expected owner's when it is opened is a copy of it. -/
private theorem putDown_of_collected {number user : Nat}
    (answered : owner.answer? before.queries = some expected)
    (collected : collectFile host schedule owner path before = .ok () after)
    (opens : OpensFile (before.await schedule).tree path number user)
    (own : host.users.nameOf user = expected) :
    ∃ reads, Follows reads (heldAt schedule path.name number
        ((before.await schedule).note ⟨number, host.users.nameOf user, expected⟩)) ∧
      PutDown reads (heldAt schedule path.name number
          ((before.await schedule).note ⟨number, host.users.nameOf user, expected⟩))
        (sizeTaken schedule before.toSurroundings number) path before after := by
  obtain ⟨expected', fate, around, answered', visited, rfl⟩ := visited_of_collected collected
  cases answered.symm.trans answered'
  obtain ⟨result, snapped, comes⟩ := snapped_of_visited visited opens own
  obtain ⟨reads, follows, copied⟩ := exists_copy_of_snapped snapped
  obtain rfl := comes _ copied
  exact ⟨reads, follows, putDown_of_fate follows rfl rfl⟩

/-- Of a path, only the name tells whether a file is put down. -/
private theorem fault?_of_name (path : Path) (trouble : Trouble) (fate : Fate) :
    fate.fault? path trouble = Visit.fault? ⟨path, path.name, "", fate⟩ trouble := by
  rw [← Visit.fault?_eq]
  cases fate <;> simp [Fate.fault?, Visit.path_name]

/-- A copied file that could not be put down left no more than a front of its frame. -/
private theorem abandoned_of_fault {trouble : Trouble} {fault : CollectFault}
    (follows : Follows reads contents)
    (ends : (Fate.ofCopy (copy reads size).2).fault? path trouble = some fault)
    (items : after.items = before.items) (report : after.report = before.report) :
    Abandoned reads size path trouble before fault after := by
  rw [fault?_of_name] at ends
  refine ⟨items, report, ?_, ?_⟩
  · intro spool whole
    obtain ⟨last, copied⟩ := copied_of_copy follows whole
    rw [whole] at ends
    have front := Visit.written_prefix ends
    rw [copied.counted]
    refine ⟨front, ?_⟩
    rcases Visit.fault?_eq_some ends with ⟨count, unfit, long, -⟩ | ⟨_, errno, -, fails⟩
    · simp only [Fate.ofCopy, Visit.unfit?] at long
      split at long
      · exact .inr (.inl ‹_›)
      · split at long
        · exact .inr (.inr ‹_›)
        · cases long
    · exact .inl ⟨errno, fails⟩
  · intro refusal broken
    rw [broken] at ends
    cases closing : trouble.closing with
    | none => simp [Fate.ofCopy, Visit.fault?, closing] at ends
    | some errno =>
      simp only [Fate.ofCopy, Visit.fault?, closing] at ends
      cases ends
      exact ⟨rfl, errno, rfl⟩

/-- Whatever is written to a file while it is copied, however little its reads give and wherever one
fails: a whole copy stands in the record behind its own count, and each of its bytes was read in its
own place; a copy that broke off leaves the record as it was. The turn of every file that is the
expected owner's when it is opened, in every collection, is such a copy. -/
theorem copies_framed (host : Host) (schedule : Schedule) (collector : Collector) (tree : FileTree)
    (queries : Nat) :
    (∀ reads contents size path trouble before, Follows reads contents →
      (∃ after, putDown path trouble (.ofCopy (copy reads size).2) before = .ok () after ∧
        PutDown reads contents size path before after) ∨
      ∃ fault after, putDown path trouble (.ofCopy (copy reads size).2) before = .error fault after ∧
        Abandoned reads size path trouble before fault after) ∧
    ∀ root name before after expected number user,
      FileTurn host schedule collector tree queries root name before after →
      collector.owner.answer? before.queries = some expected →
      OpensFile (before.await schedule).tree (collector.fileIn root name) number user →
      host.users.nameOf user = expected →
      ∃ reads, Follows reads (heldAt schedule name number
          ((before.await schedule).note ⟨number, host.users.nameOf user, expected⟩)) ∧
        PutDown reads (heldAt schedule name number
            ((before.await schedule).note ⟨number, host.users.nameOf user, expected⟩))
          (sizeTaken schedule before.toSurroundings number) (collector.fileIn root name) before
          after := by
  constructor
  · intro reads contents size path trouble before follows
    cases ends : (Fate.ofCopy (copy reads size).2).fault? path trouble with
    | none => exact .inl ⟨_, putDown_of_whole ends before, putDown_of_fate follows rfl rfl⟩
    | some fault =>
      exact .inr ⟨fault, _, putDown_of_fault ends before, abandoned_of_fault follows ends rfl rfl⟩
  · intro root name before after expected number user turn answered opens own
    have made := putDown_of_collected answered turn.collected opens own
    rw [collector.name_fileIn] at made
    exact made

/-- Reads of a log to which a byte is added before each of them, and that give one byte each. -/
def growingReads : Reads := fun turn place demand =>
  .ok (((List.replicate (turn + 1) 7).drop place).take (min 1 demand))

private theorem follows_growingReads :
    Follows growingReads fun turn => List.replicate (turn + 1) 7 where
  placed := by
    rintro turn place demand bytes ⟨⟩
    exact List.take_prefix _ _
  bounded := by
    rintro turn place demand bytes ⟨⟩
    exact Nat.le_trans (List.length_take_le _ _) (Nat.min_le_right _ _)
  ended := by
    intro turn place demand nothing wanted
    exact Snapshot.length_le_of_take_drop_eq_nil (Except.ok.inj nothing) (by omega)

/-- When the log file is first read, all but its first byte is cut off. -/
def cuttingRead : Schedule where
  onRead := [("stdout", {
    changes := [.truncate "/logs/application_1_0002/container_1_0002_03_000004/stdout" 1] })]

theorem changed_logs_framed :
    (∃ after, putDown ⟨"/", ["log"]⟩ {} (.ofCopy (copy growingReads 3).2) { tree := keyTree [1] } =
        .ok () after ∧ after.items = [.entry "log" [7, 7, 7]] ∧
      PutDown growingReads (fun turn => List.replicate (turn + 1) 7) 3 ⟨"/", ["log"]⟩
        { tree := keyTree [1] } after) ∧
    (left (keyCollector.produce ⟨[(0, "root")], {}⟩ cuttingRead (keyTree [1]) 0)).items =
      [.entry "stdout" [104]] ∧
    ∃ root before after number opened reads,
      FileTurn ⟨[(0, "root")], {}⟩ cuttingRead keyCollector (keyTree [1]) 0 root "stdout" before
        after ∧
      Follows reads (heldAt cuttingRead "stdout" number opened) ∧
      PutDown reads (heldAt cuttingRead "stdout" number opened)
        (sizeTaken cuttingRead before.toSurroundings number) (keyCollector.fileIn root "stdout")
        before after := by
  have framed := copies_framed ⟨[(0, "root")], {}⟩ cuttingRead keyCollector (keyTree [1]) 0
  have items : (left (keyCollector.produce ⟨[(0, "root")], {}⟩ cuttingRead (keyTree [1]) 0)).items =
      [.entry "stdout" [104]] := by decide +kernel
  refine ⟨?_, items, ?_⟩
  · have whole : (Fate.ofCopy (copy growingReads 3).2).fault? ⟨"/", ["log"]⟩ {} = none := by
      decide +kernel
    have put := putDown_of_whole whole { tree := keyTree [1] }
    rcases framed.1 growingReads (fun turn => List.replicate (turn + 1) 7) 3 ⟨"/", ["log"]⟩ {}
      { tree := keyTree [1] } follows_growingReads with ⟨after, done, made⟩ | ⟨fault, after, failed, -⟩
    · refine ⟨after, done, ?_, made⟩
      rw [put] at done
      cases done
      decide +kernel
    · rw [put] at failed
      cases failed
  · have single : (left (keyCollector.produce ⟨[(0, "root")], {}⟩ cuttingRead (keyTree [1]) 0)).items =
        [] ++ .entry "stdout" [104] :: [] := items
    obtain ⟨root, name, before, after, turn, first, last⟩ := given_of_produce single
    have gave : after.items = before.items ++ [.entry "stdout" [104]] := by
      rw [first]
      exact last
    obtain ⟨named, expected, answered, number, user, _, opens, own, -⟩ :=
      read_of_collected turn.collected gave
    obtain rfl : "stdout" = name := named.trans (keyCollector.name_fileIn root name)
    obtain ⟨reads, follows, made⟩ :=
      framed.2 root "stdout" before after expected number user turn answered opens own
    exact ⟨root, before, after, number, _, reads, turn, follows, made⟩

end ContainerLogs.Collector
