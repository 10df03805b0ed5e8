import ContainerLogs.Proofs.Archive.Moments
import ContainerLogs.Proofs.FileTree.Contents

/-!
Under which mode an archive lies on the disk. Until its file has the mode of an archive, no file has
gained or lost a byte; from then on it has that mode at every moment, whatever is asked of the
writer. An opening that fails before it empties the file destroys nothing, and one that fails in the
preamble leaves a front part of it.
-/
namespace ContainerLogs

open Watched (still request)

namespace FileTree

variable (tree : FileTree) (process : Process)

/-- A request for a directory harms no file. -/
private theorem unharmed_request (path : String) (mode : Nat) :
    ∀ moment ∈ (request id (tree.makeDirectory process path mode)).moments,
      Unharmed tree moment := by
  cases made : tree.makeDirectory process path mode with
  | ok after => simpa [request] using Unharmed.makeDirectory made
  | error refusal => simp [request]

private theorem unharmed_watchMakeOrKeep (path : String) (mode : Nat) :
    ∀ moment ∈ (tree.watchMakeOrKeep process path mode).moments, Unharmed tree moment := by
  refine Watched.forall_andThen.2 ⟨tree.unharmed_request process path mode, ?_⟩
  cases tree.makeDirectory process path mode <;> simp [request, still]

private theorem unharmed_watchDirectories (path : Path) (mode : Nat) :
    ∀ moment ∈ (tree.watchDirectories process path mode).moments, Unharmed tree moment := by
  rw [watchDirectories]
  refine Watched.forall_andThen.2 ⟨tree.unharmed_request process path.text mode, ?_⟩
  cases tree.makeDirectory process path.text mode with
  | ok made => simp [request, still]
  | error refusal =>
    simp only [request]
    split
    · rename_i absent
      have shorter := Path.length_parent_lt absent.2
      have parents := unharmed_watchDirectories path.parent 0o777
      have kept := (tree.ends_watchDirectories process path.parent 0o777).holds (.refl tree) parents
      refine Watched.forall_andThen.2 ⟨parents, ?_⟩
      generalize (tree.watchDirectories process path.parent 0o777).result = above at kept
      obtain ⟨between, _ | refusal⟩ := above
      · intro moment among
        exact kept.trans (between.unharmed_watchMakeOrKeep process path.text mode moment among)
      · simp [still]
    · simp [still]
termination_by path.parts.length

end FileTree

namespace Archive

open FileTree (SameBut SameNode Unharmed)

/-- What has the number of an archive's file has the mode of an archive. -/
def Guarded (file : Nat) (tree : FileTree) : Prop :=
  (tree.node? file).map Node.mode = some fileMode

namespace Disk

variable {disk : Disk} {owner : Nat} {content : Bytes}

private theorem Holds.guarded (h : disk.Holds owner content) :
    Guarded disk.output.file disk.tree := by
  rw [Guarded, h.node]
  rfl

private theorem Holds.guarded_watchStore (h : disk.Holds owner content) (bytes : Bytes) :
    ∀ moment ∈ (disk.watchStore bytes).moments, Guarded disk.output.file moment := by
  intro moment among
  obtain ⟨count, -, rfl⟩ := List.mem_map.1 among
  exact (h.store (bytes.take count)).guarded

private theorem Holds.guarded_watchFlush (h : disk.Holds owner content) :
    ∀ moment ∈ disk.watchFlush.moments, Guarded disk.output.file moment :=
  Watched.forall_andThen.2 ⟨h.guarded_watchStore _, by simp [still]⟩

private theorem Holds.guarded_watchClose (h : disk.Holds owner content) :
    ∀ moment ∈ disk.watchClose.moments, Guarded disk.output.file moment :=
  Watched.forall_andThen.2 ⟨h.guarded_watchFlush, by simp [still]⟩

private theorem Holds.guarded_watchAccept (h : disk.Holds owner content) (bytes : Bytes) :
    ∀ moment ∈ (disk.watchAccept bytes).moments, Guarded disk.output.file moment := by
  unfold watchAccept
  split
  · simp [still]
  · refine Watched.forall_andThen.2 ⟨h.guarded_watchFlush, ?_⟩
    split
    · simp [still]
    · exact h.flush.guarded_watchStore bytes

private theorem Holds.guarded_watchWrite (h : disk.Holds owner content) (bytes : Bytes) :
    ∀ moment ∈ (disk.watchWrite bytes).moments, Guarded disk.output.file moment :=
  Watched.forall_andThen.2 ⟨h.guarded_watchAccept _, by simp [still]⟩

private theorem Holds.guarded_watchPieces (h : disk.Holds owner content) (pieces : List Bytes) :
    ∀ moment ∈ (watchPieces pieces disk).moments, Guarded disk.output.file moment := by
  induction pieces generalizing disk content with
  | nil => simp [watchPieces, still]
  | cons piece pieces ih =>
    refine Watched.forall_andThen.2 ⟨h.guarded_watchWrite piece, ?_⟩
    rw [result_watchWrite]
    rcases takes_write h piece with ⟨after, written, takes, -⟩ | ⟨room, after, written, -, -, takes⟩ <;>
      obtain ⟨content', holds⟩ := takes.holds <;> rw [written, ← takes.file]
    · exact ih holds
    · simp [still]

/-- What is left after pieces were written, whether or not all of them, is still the file's. -/
private theorem Holds.leaving_pieces (h : disk.Holds owner content) (pieces : List Bytes) :
    ∃ content', (Running.leaving (pieces.forM write disk)).Holds owner content' ∧
      (Running.leaving (pieces.forM write disk)).output.file = disk.output.file := by
  rcases takes_pieces pieces h with ⟨after, written, takes, -⟩ | ⟨room, after, written, -, -, takes⟩ <;>
    obtain ⟨content', holds⟩ := takes.holds <;> rw [written]
  · exact ⟨content', holds, takes.file⟩
  · exact ⟨content', holds, takes.file⟩

end Disk

namespace Session

variable {session after : Session} {file owner : Nat} {bytes key value : Bytes} {output : Output}

private theorem Keeps.guarded (h : session.Keeps file owner bytes) : Guarded file session.tree := by
  obtain ⟨content, node⟩ := h.node
  rw [Guarded, node]
  rfl

private theorem Keeps.guarded_watchRecord (h : session.Keeps file owner bytes) (key value : Bytes) :
    ∀ moment ∈ (session.watchRecord key value).moments, Guarded file moment := by
  unfold watchRecord
  split
  · rename_i output pieces opened _
    obtain ⟨rfl, -, content, holds⟩ := h.of_open opened
    refine Watched.forall_andThen.2 ⟨holds.guarded_watchPieces pieces, ?_⟩
    obtain ⟨content', holds', same⟩ := holds.leaving_pieces pieces
    rw [Disk.result_watchPieces]
    generalize pieces.forM Disk.write ⟨session.tree, output⟩ = written at holds' same
    cases written with
    | ok _ disk => simp [still]
    | error refusal disk =>
      simp only [Running.leaving] at holds' same
      rw [← same]
      exact Watched.forall_andThen.2 ⟨holds'.guarded_watchClose, by simp [still]⟩
  · simp [still]

private theorem Keeps.guarded_watchRecords (h : session.Keeps file owner bytes)
    (records : List (Bytes × Bytes)) :
    ∀ moment ∈ (watchRecords records session).moments, Guarded file moment := by
  induction records generalizing session bytes with
  | nil => simp [watchRecords, still]
  | cons record records ih =>
    obtain ⟨key, value⟩ := record
    refine Watched.forall_andThen.2 ⟨h.guarded_watchRecord key value, ?_⟩
    rw [result_watchRecord]
    split
    · rename_i after written
      cases opened : session.writer.output with
      | none =>
        rw [writeRecord, Running.bind_of_error (requireOpen_of_closed opened)] at written
        cases written
      | some output =>
        obtain ⟨-, -, -, keeps⟩ := writeRecord_eq_ok opened h written
        exact ih keeps
    · simp [still]

/-- Only a front part of what was to be added is there, and the writer is closed. -/
structure Broken (file owner : Nat) (bytes whole : Bytes) (before after : Session) : Prop where
  closed : after.writer.output = none
  beside : Beside file before after
  front : ∃ front, front <+: whole ∧ front.length < whole.length ∧
    after.tree.node? file = some (archiveNode owner (bytes ++ front))

/-- A record that was not written was torn, or a length of it did not fit its field. -/
theorem writeRecord_eq_error {fault : WriteFault} (opened : session.writer.output = some output)
    (h : session.Keeps file owner bytes) (failed : writeRecord key value session = .error fault after) :
    (fault.tears = false ∧ ¬ Fits key value) ∨
    (fault.tears = true ∧ Broken file owner bytes (recordBytes key value) session after) := by
  by_cases fit : Fits key value
  · by_cases enough : ∀ room, output.room = some room → (recordBytes key value).length ≤ room
    · obtain ⟨_, _, whole, -⟩ := writeRecord_whole opened h fit enough
      rw [failed] at whole
      cases whole
    · push Not at enough
      obtain ⟨room, limit, short⟩ := enough
      obtain ⟨_, torn, closed, beside, keeps⟩ := writeRecord_torn opened h fit limit short
      rw [failed] at torn
      cases torn
      refine .inr ⟨rfl, closed, beside, (recordBytes key value).take room, List.take_prefix _ _, ?_,
        keeps.of_closed closed⟩
      rw [List.length_take]
      omega
  · obtain ⟨cause, refused⟩ := writeRecord_of_unfit opened fit
    rw [failed] at refused
    cases refused
    exact .inl ⟨rfl, fit⟩

private theorem writeRecords_eq_error {records : List (Bytes × Bytes)} {fault : WriteFault}
    (opened : session.writer.output = some output) (h : session.Keeps file owner bytes)
    (failed : (records.forM fun (key, value) => writeRecord key value) session = .error fault after) :
    (fault.tears = false ∧ ∃ record ∈ records, ¬ Fits record.1 record.2) ∨
    (fault.tears = true ∧ Broken file owner bytes (recordsBytes records) session after) := by
  induction records generalizing session output bytes with
  | nil => cases failed
  | cons record records ih =>
    obtain ⟨key, value⟩ := record
    rw [Running.forM_cons] at failed
    simp only at failed
    rw [recordsBytes_cons]
    simp only
    cases first : writeRecord key value session with
    | error cause between =>
      rw [first] at failed
      cases failed
      rcases writeRecord_eq_error opened h first with ⟨whole, unfit⟩ | ⟨tears, closed, beside, front,
        begun, short, node⟩
      · exact .inl ⟨whole, _, List.mem_cons_self, unfit⟩
      · refine .inr ⟨tears, closed, beside, front, begun.trans (List.prefix_append _ _), ?_, node⟩
        rw [List.length_append]
        omega
    | ok _ between =>
      rw [first] at failed
      obtain ⟨-, ⟨next, opened'⟩, beside, keeps⟩ := writeRecord_eq_ok opened h first
      rcases ih opened' keeps failed with ⟨whole, record, among, unfit⟩ | ⟨tears, closed, beside',
        front, begun, short, node⟩
      · exact .inl ⟨whole, record, List.mem_cons_of_mem _ among, unfit⟩
      · refine .inr ⟨tears, closed, ⟨beside'.path.trans beside.path, beside.frame.trans beside'.frame⟩,
          recordBytes key value ++ front, ?_, ?_, ?_⟩
        · exact (List.prefix_append_right_inj _).2 begun
        · rw [List.length_append, List.length_append]
          omega
        · rw [← List.append_assoc]
          exact node

variable {process : Process} {conditions : Conditions} {path : Path} {identity : String}
  {trace made : Trace} {writer : Writer}

private theorem openMoments_unharmed (process : Process) (path : Path) (tree : FileTree) :
    ∀ moment ∈ openMoments process path tree, Unharmed tree moment := by
  have directories := tree.unharmed_watchDirectories process path.parent directoryMode
  have kept := (tree.ends_watchDirectories process path.parent directoryMode).holds (.refl tree)
    directories
  refine Watched.forall_andThen.2 ⟨directories, ?_⟩
  generalize (tree.watchDirectories process path.parent directoryMode).result = above at kept
  obtain ⟨between, _ | refusal⟩ := above
  · simp only
    cases opening : between.openForWriting process path.text fileMode with
    | ok opened =>
      refine Watched.forall_andThen.2 ⟨?_, by simp [request, still]⟩
      simpa [request] using kept.trans (Unharmed.openForWriting opening)
    | error refusal => exact Watched.forall_andThen.2 ⟨by simp [request], by simp [request, still]⟩
  · simp [still]

private theorem openFile_unharmed {tree opened : FileTree} {result : Except Refusal Nat}
    (opening : openFile process path tree = (opened, result)) : Unharmed tree opened := by
  have kept := (ends_watchOpen process path tree).holds (.refl tree)
    (openMoments_unharmed process path tree)
  rw [result_watchOpen, opening] at kept
  exact kept

private theorem guarded_watchTakeOver (conditions : Conditions) (path : String) (file : Nat)
    (tree : FileTree) :
    ∀ moment ∈ (watchTakeOver conditions path file tree).moments, Guarded file moment := by
  unfold watchTakeOver
  cases changed : attempted conditions.modeFails (tree.changeOpenMode file fileMode) with
  | error refusal => exact Watched.forall_andThen.2 ⟨by simp [request], by simp [request, still]⟩
  | ok moded =>
    obtain ⟨rfl, node, found, -⟩ := FileTree.changeOpenMode_eq_ok (attempted_eq_ok changed)
    have remoded := FileTree.node?_setMode fileMode found
    have given : Guarded file (tree.setMode file fileMode) := by
      rw [Guarded, remoded]
      rfl
    refine Watched.forall_andThen.2 ⟨by simpa [request] using given, ?_⟩
    simp only [request]
    cases cut : attempted conditions.truncateFails
        ((tree.setMode file fileMode).emptyOpen file) with
    | error refusal => exact Watched.forall_andThen.2 ⟨by simp, by simp [still]⟩
    | ok emptied =>
      have taken : takeOver conditions path file tree = (emptied, none) := by
        simp only [takeOver, changed, cut]
      obtain ⟨-, archive, -⟩ := takeOver_eq_none taken
      refine Watched.forall_andThen.2 ⟨?_, by simp [still]⟩
      simp [Guarded, archive, archiveNode]

private theorem fillMoments_guarded {opened : FileTree} {file : Nat}
    (opening : openFile process path trace.tree = (opened, .ok file)) :
    ∀ moment ∈ fillMoments process conditions path identity trace, Guarded file moment := by
  rw [fillMoments, opening]
  refine Watched.forall_andThen.2 ⟨guarded_watchTakeOver conditions path.text file opened, ?_⟩
  rw [result_watchTakeOver]
  split
  · simp [still]
  · rename_i taken takingOver
    exact Watched.forall_andThen.2 ⟨(begun_keeps takingOver).guarded_watchRecords _, by simp [still]⟩

end Session

namespace Call

open Session

variable {session : Session} {file owner : Nat} {bytes : Bytes}

private theorem guarded_watchAppend (request : Append) (h : session.Keeps file owner bytes)
    (spared : (Call.append request).Spares (SameNode file) session) :
    ∀ moment ∈ (watchAppend request session).moments, Guarded file moment := by
  have keeps : (left (request.collect session)).Keeps file owner bytes :=
    h.of_spared (writer_of_collect session) spared
  unfold watchAppend
  split
  · refine Watched.forall_andThen.2 ⟨by simpa [watchCollect] using keeps.guarded, ?_⟩
    simp only [watchCollect]
    cases made : request.collect session with
    | error fault collected => simp [still]
    | ok collection collected =>
      rw [made] at keeps
      refine Watched.forall_andThen.2 ⟨keeps.guarded_watchRecord _ _, ?_⟩
      split <;> simp [still]
  · simp [still]

private theorem guarded_watchClose (h : session.Keeps file owner bytes) :
    ∀ moment ∈ session.watchClose.moments, Guarded file moment := by
  unfold watchClose
  split
  · simp [still]
  · rename_i output opened
    obtain ⟨rfl, -, content, holds⟩ := h.of_open opened
    exact Watched.forall_andThen.2 ⟨holds.guarded_watchClose, by simp [still]⟩

private theorem moments_guarded (call : Call) (h : session.Keeps file owner bytes)
    (spared : call.Spares (SameNode file) session) :
    ∀ moment ∈ call.moments session, Guarded file moment := by
  cases call with
  | append request =>
    exact Watched.forall_andThen.2 ⟨guarded_watchAppend request h spared, by simp [still]⟩
  | close => exact Watched.forall_andThen.2 ⟨guarded_watchClose h, by simp [still]⟩
  | limit => simp [moments, watch, still]

private theorem momentsAll_guarded (calls : List Call) (h : session.Keeps file owner bytes)
    (spared : Undisturbed (SameNode file) calls session) :
    ∀ moment ∈ momentsAll calls session, Guarded file moment := by
  induction calls generalizing session bytes with
  | nil => simp [momentsAll, watchAll, still]
  | cons call calls ih =>
    obtain ⟨_, -, keeps⟩ := after_keeps call h spared.1
    refine Watched.forall_andThen.2 ⟨moments_guarded call h spared.1, ?_⟩
    rw [result_watch]
    exact ih keeps spared.2

end Call

open Session

/-- What becomes of files while an archive is opened and written to. An opening has two parts, and
`startMoments` is the moments of both: first its file is opened, then it is taken over and filled. -/
structure Guards (process : Process) (conditions : Conditions) (path : Path) (identity : String)
    (trace : Trace) : Prop where
  /-- While the file is opened, no file gains or loses a byte. -/
  opening : ∀ moment ∈ openMoments process path trace.tree, Unharmed trace.tree moment
  /-- While it is taken over and filled, it has the mode of an archive. -/
  filling {opened : FileTree} {file : Nat}
    (opening : openFile process path trace.tree = (opened, .ok file)) :
    ∀ moment ∈ fillMoments process conditions path identity trace, Guarded file moment
  parts : startMoments process conditions path identity trace =
    openMoments process path trace.tree ++ fillMoments process conditions path identity trace
  /-- These are the trees of a watched run that does what the opening does, and the last of them is
  the one that it leaves. -/
  watched : (watchStart process conditions path identity trace).result =
    start process conditions path identity trace
  last : (startMoments process conditions path identity trace).getLastD trace.tree =
    treeAfter (start process conditions path identity trace)
  /-- Directories that cannot be made, or a file that cannot be opened, leave no archive and all
  files as they were. -/
  unopened {opened : FileTree} {refusal : Refusal}
    (failed : openFile process path trace.tree = (opened, .error refusal))
    (named : refusal ≠ .nullInPath) :
    start process conditions path identity trace =
      .error (.creation path.text refusal) { trace with tree := opened } ∧
    Unharmed trace.tree opened
  /-- So does a file that cannot be given its mode. -/
  unmoded {opened : FileTree} {file : Nat} {refusal : Refusal}
    (opening : openFile process path trace.tree = (opened, .ok file))
    (failed : attempted conditions.modeFails (opened.changeOpenMode file fileMode) = .error refusal) :
    start process conditions path identity trace =
      .error (.mode path.text refusal) { trace with tree := opened } ∧
    Unharmed trace.tree opened
  /-- So does a file that has its mode and cannot be emptied. -/
  unemptied {opened moded : FileTree} {file : Nat} {refusal : Refusal}
    (opening : openFile process path trace.tree = (opened, .ok file))
    (changed : attempted conditions.modeFails (opened.changeOpenMode file fileMode) = .ok moded)
    (failed : attempted conditions.truncateFails (moded.emptyOpen file) = .error refusal) :
    start process conditions path identity trace =
      .error (.truncation path.text refusal) { trace with tree := moded } ∧
    Unharmed trace.tree moded
  /-- A path with a null in it is the path of no file. -/
  unnamed {opened : FileTree}
    (failed : openFile process path trace.tree = (opened, .error .nullInPath)) :
    start process conditions path identity trace =
      .error (.refused .nullInPath) { trace with tree := opened } ∧
    Unharmed trace.tree opened
  /-- A preamble that breaks off leaves a front part of it at the path, under the mode of an archive.
  -/
  unwritten {opened taken : FileTree} {file : Nat} {named : String} {refusal : Refusal}
    {broken : Session} (opening : openFile process path trace.tree = (opened, .ok file))
    (takingOver : takeOver conditions path.text file opened = (taken, none))
    (failed : writePreamble identity (begun conditions path identity file trace taken) =
      .error (.tornRecord named refusal) broken) :
    start process conditions path identity trace =
      .error (.header path.text refusal) ⟨broken.tree, broken.journal⟩ ∧
    broken.tree.resolve path.text = .ok file ∧
    ∃ front, front <+: recordsBytes (preamble identity) ∧
      front.length < (recordsBytes (preamble identity)).length ∧
      broken.tree.node? file = some (archiveNode opened.user front)
  /-- Nothing else ends the preamble but a length that does not fit its field. -/
  unfit {opened taken : FileTree} {file : Nat} {fault : WriteFault} {refused : Session}
    (opening : openFile process path trace.tree = (opened, .ok file))
    (takingOver : takeOver conditions path.text file opened = (taken, none))
    (failed : writePreamble identity (begun conditions path identity file trace taken) =
      .error fault refused)
    (whole : fault.tears = false) : ∃ record ∈ preamble identity, ¬ Fits record.1 record.2
  /-- Whatever is asked of a writer that was handed out, the file at its path keeps its mode. -/
  run {writer : Writer} {made : Trace}
    (started : start process conditions path identity trace = .ok writer made) :
    ∃ opened output, openFile process path trace.tree = (opened, .ok output.file) ∧
      writer.output = some output ∧ made.tree.resolve path.text = .ok output.file ∧
      ∀ calls, Call.Undisturbed (SameNode output.file) calls ⟨made.tree, writer, made.journal⟩ →
        (∀ moment ∈ Call.momentsAll calls ⟨made.tree, writer, made.journal⟩,
          Guarded output.file moment) ∧
        (Call.watchAll calls ⟨made.tree, writer, made.journal⟩).result =
          Call.afterAll calls ⟨made.tree, writer, made.journal⟩ ∧
        (Call.momentsAll calls ⟨made.tree, writer, made.journal⟩).getLastD made.tree =
          (Call.afterAll calls ⟨made.tree, writer, made.journal⟩).tree

/-- For every umask, whatever stands at the path and whichever step fails: no byte is lost or written
before the file of the archive has its mode, and it has that mode from then on. -/
theorem start_guards (process : Process) (conditions : Conditions) (path : Path) (identity : String)
    (trace : Trace) : Guards process conditions path identity trace where
  opening := openMoments_unharmed process path trace.tree
  filling := fillMoments_guarded
  parts := startMoments_eq process conditions path identity trace
  watched := result_watchStart process conditions path identity trace
  last := by
    rw [← result_watchStart]
    exact ends_watchStart process conditions path identity trace
  unopened {opened refusal} failed named := by
    refine ⟨?_, openFile_unharmed failed⟩
    simp only [start, failed, openingFault, if_neg named]
  unmoded {opened file refusal} opening failed := by
    refine ⟨?_, openFile_unharmed opening⟩
    simp only [start, opening, takeOver, failed]
  unemptied {opened moded file refusal} opening changed failed := by
    obtain ⟨rfl, -⟩ := FileTree.changeOpenMode_eq_ok (attempted_eq_ok changed)
    refine ⟨?_, (openFile_unharmed opening).trans (.setMode opened file fileMode)⟩
    simp only [start, opening, takeOver, changed, failed]
  unnamed {opened} failed := by
    refine ⟨?_, openFile_unharmed failed⟩
    simp only [start, failed, openingFault, if_pos]
  unwritten {opened taken file named refusal broken} opening takingOver failed := by
    rcases writeRecords_eq_error rfl (begun_keeps takingOver) failed with ⟨whole, -⟩ | ⟨-, -, beside,
      front, begun, short, there⟩
    · cases whole
    · refine ⟨?_, resolve_of_takeOver opening takingOver beside.frame there, front, begun, short, there⟩
      simp only [start, opening, takingOver]
      rw [failed]
      rfl
  unfit {opened taken file fault refused} opening takingOver failed whole := by
    rcases writeRecords_eq_error rfl (begun_keeps takingOver) failed with ⟨-, unfit⟩ | ⟨tears, -⟩
    · exact unfit
    · rw [whole] at tears
      cases tears
  run {writer made} started := by
    obtain ⟨file, opened, taken, output, opening, takingOver, outputEq, rfl, -, frame, -, keeps⟩ :=
      start_eq_ok started
    obtain ⟨content, there⟩ := keeps.node
    refine ⟨opened, output, opening, outputEq, resolve_of_takeOver opening takingOver frame there,
      fun calls spared => ⟨?_, ?_, ?_⟩⟩
    · exact Call.momentsAll_guarded calls keeps spared
    · exact Call.result_watchAll calls _
    · rw [← Call.result_watchAll]
      exact Call.ends_watchAll calls _

/-- An archive with a whole record, then a torn one. -/
theorem guarded_in_empty : ∃ (output : Output) (made : Trace) (writer : Writer),
    start {} { room := some 80 } ⟨"", ["a.log"]⟩ "app" { tree := .empty } = .ok writer made ∧
    writer.output = some output ∧
    ∀ moment ∈ Call.momentsAll [.append (appendNamed "c"), .limit (some 3) true,
      .append (appendNamed "d"), .close] ⟨made.tree, writer, made.journal⟩,
      Guarded output.file moment := by
  obtain ⟨writer, made, started⟩ := start_in_empty
  obtain ⟨opened, output, opening, outputEq, leads, run⟩ := (start_guards ..).run started
  have spared : Call.Undisturbed (SameNode output.file) [.append (appendNamed "c"),
      .limit (some 3) true, .append (appendNamed "d"), .close] ⟨made.tree, writer, made.journal⟩ := by
    apply Call.undisturbed_of_calm (.refl _)
    intro request among
    simp only [List.mem_cons, Call.append.injEq, reduceCtorEq, List.not_mem_nil, or_false,
      false_or] at among
    rcases among with rfl | rfl <;> exact .quiet
  exact ⟨output, made, writer, started, outputEq, (run _ spared).1⟩

end Archive

end ContainerLogs
