import ContainerLogs.Proofs.Archive.Run
import ContainerLogs.Proofs.Watched

/-!
What the file tree looks like while an archive is opened and written to. A writer is watched at work:
there is one tree for each request to the system, and one for each front part of bytes that are stored,
since they may get there in any number of steps.
-/
namespace ContainerLogs

open Watched (still request Ends)

namespace Archive

open Running (leaving)

namespace Disk

/-- At every moment some front part of the bytes is there. -/
def watchStore (bytes : Bytes) (disk : Disk) : Watched Disk where
  moments := (List.range (bytes.length + 1)).map fun count => (disk.store (bytes.take count)).tree
  result := disk.store bytes

def watchFlush (disk : Disk) : Watched Disk :=
  (disk.watchStore disk.output.held).andThen fun stored => still (stored.hold [])

def watchAccept (bytes : Bytes) (disk : Disk) : Watched Disk :=
  if disk.output.held.length + bytes.length ≤ bufferBytes then
    still (disk.hold (disk.output.held ++ bytes))
  else
    disk.watchFlush.andThen fun flushed =>
      if bytes.length ≤ bufferBytes then still (flushed.hold bytes) else flushed.watchStore bytes

def watchWrite (bytes : Bytes) (disk : Disk) : Watched (EStateM.Result Refusal Disk Unit) :=
  (disk.watchAccept (disk.fitting bytes)).andThen fun accepted =>
    let written := accepted.occupy (disk.fitting bytes).length
    still (if (disk.fitting bytes).length < bytes.length then .error (.bare .noSpace) written
      else .ok () written)

def watchPieces : List Bytes → Disk → Watched (EStateM.Result Refusal Disk Unit)
  | [], disk => still (.ok () disk)
  | piece :: pieces, disk => (disk.watchWrite piece).chain fun _ after => watchPieces pieces after

def watchClose (disk : Disk) : Watched (FileTree × Option Refusal) :=
  disk.watchFlush.andThen fun flushed =>
    still (flushed.tree, if disk.output.closeFails then some (.bare .deviceFault) else none)

private theorem result_watchAccept (bytes : Bytes) (disk : Disk) :
    (disk.watchAccept bytes).result = disk.accept bytes := by
  simp only [watchAccept, accept]
  split
  · rfl
  · simp only [Watched.andThen]
    split <;> rfl

theorem result_watchWrite (bytes : Bytes) (disk : Disk) :
    (disk.watchWrite bytes).result = write bytes disk := by
  have same := disk.result_watchAccept (disk.fitting bytes)
  simp only [watchWrite, Watched.andThen, same]
  rfl

theorem result_watchPieces (pieces : List Bytes) (disk : Disk) :
    (watchPieces pieces disk).result = pieces.forM write disk := by
  induction pieces generalizing disk with
  | nil => rfl
  | cons piece pieces ih =>
    have same : (watchPieces (piece :: pieces) disk).result =
        (write piece >>= fun _ => pieces.forM write) disk :=
      Watched.result_chain (disk.result_watchWrite piece) fun _ after => ih after
    exact same

theorem result_watchClose (disk : Disk) : disk.watchClose.result = disk.close := rfl

private theorem ends_watchStore (bytes : Bytes) (disk : Disk) (start : FileTree) :
    (disk.watchStore bytes).Ends start Disk.tree := by
  simp only [Ends, watchStore]
  rw [List.range_succ, List.map_append, getLastD_append]
  simp

private theorem ends_watchFlush (disk : Disk) (start : FileTree) :
    disk.watchFlush.Ends start Disk.tree :=
  (disk.ends_watchStore _ start).andThen (Watched.ends_still rfl)

private theorem ends_watchAccept (bytes : Bytes) (disk : Disk) :
    (disk.watchAccept bytes).Ends disk.tree Disk.tree := by
  unfold watchAccept
  split
  · exact Watched.ends_still rfl
  · refine (disk.ends_watchFlush disk.tree).andThen ?_
    split
    · exact Watched.ends_still rfl
    · exact ends_watchStore bytes _ _

private theorem ends_watchWrite (bytes : Bytes) (disk : Disk) :
    (disk.watchWrite bytes).Ends disk.tree fun result => (leaving result).tree := by
  refine (disk.ends_watchAccept _).andThen (Watched.ends_still ?_)
  split <;> rfl

private theorem ends_watchPieces (pieces : List Bytes) (disk : Disk) :
    (watchPieces pieces disk).Ends disk.tree fun result => (leaving result).tree := by
  induction pieces generalizing disk with
  | nil => exact Watched.ends_still rfl
  | cons piece pieces ih => exact (disk.ends_watchWrite piece).chain fun _ after _ => ih after

private theorem ends_watchClose (disk : Disk) (start : FileTree) :
    disk.watchClose.Ends start Prod.fst :=
  (disk.ends_watchFlush start).andThen (Watched.ends_still rfl)

end Disk

namespace Session

/-- Watches how a record is written; one that is refused before its first byte needs no request. -/
def watchRecord (key value : Bytes) (session : Session) :
    Watched (EStateM.Result WriteFault Session Unit) :=
  match session.writer.output, recordPieces? key value with
  | some output, .ok pieces =>
      (Disk.watchPieces pieces ⟨session.tree, output⟩).andThen fun
        | .ok _ disk =>
            still (.ok () { session with
              tree := disk.tree
              writer := { session.writer with output := some disk.output } })
        | .error refusal disk =>
            disk.watchClose.andThen fun closed =>
              still ((do
                letGo closed
                throw (.tornRecord session.writer.path.text refusal) : Acting Unit) session)
  | _, _ => still (writeRecord key value session)

def watchRecords : List (Bytes × Bytes) → Session →
    Watched (EStateM.Result WriteFault Session Unit)
  | [], session => still (.ok () session)
  | (key, value) :: records, session =>
      (session.watchRecord key value).chain fun _ after => watchRecords records after

theorem result_watchRecord (key value : Bytes) (session : Session) :
    (session.watchRecord key value).result = writeRecord key value session := by
  unfold watchRecord
  split
  · rename_i output pieces opened fit
    rw [writeRecord, Running.bind_of_ok (requireOpen_of_open opened), fit]
    have same := Disk.result_watchPieces pieces ⟨session.tree, output⟩
    simp only [Watched.andThen, same, writePieces]
    rw [Running.get_bind]
    cases pieces.forM Disk.write ⟨session.tree, output⟩ <;> rfl
  · rfl

private theorem result_watchRecords (records : List (Bytes × Bytes)) (session : Session) :
    (watchRecords records session).result =
      (records.forM fun (key, value) => writeRecord key value) session := by
  induction records generalizing session with
  | nil => rfl
  | cons record records ih =>
    have same : (watchRecords (record :: records) session).result =
        (writeRecord record.1 record.2 >>=
          fun _ => records.forM fun (key, value) => writeRecord key value) session :=
      Watched.result_chain (session.result_watchRecord record.1 record.2) fun _ after => ih after
    exact same

private theorem letGo_tree (closed : FileTree × Option Refusal) (fault : WriteFault)
    (session : Session) :
    (leaving ((do letGo closed; throw fault : Acting Unit) session)).tree = closed.1 := by
  rcases closed with ⟨tree, _ | refusal⟩ <;> rfl

private theorem ends_watchRecord (key value : Bytes) (session : Session) :
    (session.watchRecord key value).Ends session.tree fun result => (leaving result).tree := by
  unfold watchRecord
  split
  · rename_i output pieces opened fit
    have written := Disk.ends_watchPieces pieces ⟨session.tree, output⟩
    refine written.andThen ?_
    generalize (Disk.watchPieces pieces ⟨session.tree, output⟩).result = result
    cases result with
    | ok _ disk => exact Watched.ends_still rfl
    | error refusal disk =>
      exact (disk.ends_watchClose _).andThen (Watched.ends_still (letGo_tree _ _ session))
  · rename_i refused
    refine Watched.ends_still ?_
    cases opened : session.writer.output with
    | none =>
      rw [writeRecord, Running.bind_of_error (requireOpen_of_closed opened)]
      rfl
    | some output =>
      rw [writeRecord, Running.bind_of_ok (requireOpen_of_open opened)]
      cases fit : recordPieces? key value with
      | error fault => rfl
      | ok pieces => exact (refused output pieces opened fit).elim

private theorem ends_watchRecords (records : List (Bytes × Bytes)) (session : Session) :
    (watchRecords records session).Ends session.tree fun result => (leaving result).tree := by
  induction records generalizing session with
  | nil => exact Watched.ends_still rfl
  | cons record records ih =>
    exact (session.ends_watchRecord record.1 record.2).chain fun _ after _ => ih after

/-- Watches how the file of an archive is opened. -/
def watchOpen (process : Process) (path : Path) (tree : FileTree) :
    Watched (FileTree × Except Refusal Nat) :=
  (tree.watchDirectories process path.parent directoryMode).andThen fun
    | (between, some refusal) => still (between, .error refusal)
    | (between, none) =>
        (request Prod.fst (between.openForWriting process path.text fileMode)).andThen fun
          | .error refusal => still (between, .error refusal)
          | .ok (opened, file) => still (opened, .ok file)

/-- Watches how an open file gets its mode and is emptied. -/
def watchTakeOver (conditions : Conditions) (path : String) (file : Nat) (tree : FileTree) :
    Watched (FileTree × Option WriteFault) :=
  (request id (attempted conditions.modeFails (tree.changeOpenMode file fileMode))).andThen fun
    | .error refusal => still (tree, some (.mode path refusal))
    | .ok moded =>
        (request id (attempted conditions.truncateFails (moded.emptyOpen file))).andThen fun
          | .error refusal => still (moded, some (.truncation path refusal))
          | .ok emptied => still (emptied, none)

/-- Watches how a file that was opened is taken over and gets its preamble. -/
def watchFill (conditions : Conditions) (path : Path) (identity : String) (trace : Trace) :
    FileTree × Except Refusal Nat → Watched (EStateM.Result WriteFault Trace Writer)
  | (tree, .error refusal) =>
      still (.error (openingFault (.creation path.text) refusal) { trace with tree })
  | (tree, .ok file) =>
      (watchTakeOver conditions path.text file tree).andThen fun
        | (tree, some fault) => still (.error fault { trace with tree })
        | (tree, none) =>
            (watchRecords (preamble identity)
              (begun conditions path identity file trace tree)).andThen fun written =>
                still (handOut path identity written)

/-- Watches how an archive is opened. -/
def watchStart (process : Process) (conditions : Conditions) (path : Path) (identity : String)
    (trace : Trace) : Watched (EStateM.Result WriteFault Trace Writer) :=
  (watchOpen process path trace.tree).andThen (watchFill conditions path identity trace)

variable (process : Process) (conditions : Conditions) (path : Path) (identity : String)
  (trace : Trace)

theorem result_watchOpen (tree : FileTree) :
    (watchOpen process path tree).result = openFile process path tree := by
  simp only [watchOpen, openFile, Watched.andThen, tree.result_watchDirectories]
  generalize tree.makeDirectories process path.parent directoryMode = made
  obtain ⟨between, _ | refusal⟩ := made
  · simp only [request]
    cases between.openForWriting process path.text fileMode <;> rfl
  · rfl

theorem result_watchTakeOver (file : Nat) (tree : FileTree) :
    (watchTakeOver conditions path.text file tree).result =
      takeOver conditions path.text file tree := by
  simp only [watchTakeOver, takeOver, Watched.andThen, request]
  cases attempted conditions.modeFails (tree.changeOpenMode file fileMode) with
  | error refusal => rfl
  | ok moded =>
    simp only
    cases attempted conditions.truncateFails (moded.emptyOpen file) <;> rfl

/-- What comes of watching an opening is what comes of the opening. -/
theorem result_watchStart :
    (watchStart process conditions path identity trace).result =
      start process conditions path identity trace := by
  simp only [watchStart, start, Watched.andThen, result_watchOpen]
  rcases openFile process path trace.tree with ⟨opened, refusal | file⟩
  · rfl
  · simp only [watchFill, Watched.andThen, result_watchTakeOver]
    rcases takeOver conditions path.text file opened with ⟨taken, _ | fault⟩
    · simp only [result_watchRecords]
      rfl
    · rfl

theorem ends_watchOpen (tree : FileTree) : (watchOpen process path tree).Ends tree Prod.fst := by
  refine (tree.ends_watchDirectories process path.parent directoryMode).andThen ?_
  generalize (tree.watchDirectories process path.parent directoryMode).result = made
  obtain ⟨between, _ | refusal⟩ := made
  · simp only
    cases between.openForWriting process path.text fileMode <;> rfl
  · exact Watched.ends_still rfl

private theorem ends_watchTakeOver (file : Nat) (tree : FileTree) :
    (watchTakeOver conditions path.text file tree).Ends tree Prod.fst := by
  refine (tree.ends_request _).andThen ?_
  cases attempted conditions.modeFails (tree.changeOpenMode file fileMode) with
  | error refusal => exact Watched.ends_still rfl
  | ok moded =>
    refine (moded.ends_request _).andThen ?_
    cases attempted conditions.truncateFails (moded.emptyOpen file) <;> exact Watched.ends_still rfl

/-- The tree that an opening leaves, done or not. -/
def treeAfter : EStateM.Result WriteFault Trace Writer → FileTree
  | .ok _ trace => trace.tree
  | .error _ trace => trace.tree

private theorem treeAfter_handOut (written : EStateM.Result WriteFault Session Unit) :
    treeAfter (handOut path identity written) = (leaving written).tree := by
  rcases written with ⟨_, after⟩ | ⟨fault, after⟩
  · rfl
  · cases fault <;> rfl

variable {process conditions path identity trace} in
/-- Once the file is taken over, an opening leaves what the preamble leaves, done or not. -/
theorem treeAfter_of_begun {opened taken : FileTree} {file : Nat}
    (opening : openFile process path trace.tree = (opened, .ok file))
    (takingOver : takeOver conditions path.text file opened = (taken, none)) :
    treeAfter (start process conditions path identity trace) =
      (leaving (writePreamble identity (begun conditions path identity file trace taken))).tree := by
  simp only [start, opening, takingOver]
  exact treeAfter_handOut path identity _

private theorem ends_watchFill (opened : FileTree × Except Refusal Nat) :
    (watchFill conditions path identity trace opened).Ends opened.1 treeAfter := by
  rcases opened with ⟨tree, refusal | file⟩
  · exact Watched.ends_still rfl
  · refine (ends_watchTakeOver conditions path file tree).andThen ?_
    generalize (watchTakeOver conditions path.text file tree).result = taken
    rcases taken with ⟨taken, _ | fault⟩
    · exact (ends_watchRecords (preamble identity) _).andThen
        (Watched.ends_still (treeAfter_handOut path identity _))
    · exact Watched.ends_still rfl

theorem ends_watchStart :
    (watchStart process conditions path identity trace).Ends trace.tree treeAfter :=
  (ends_watchOpen process path trace.tree).andThen (ends_watchFill conditions path identity trace _)

/-- The trees while the file of an archive is opened. -/
def openMoments (process : Process) (path : Path) (tree : FileTree) : List FileTree :=
  (watchOpen process path tree).moments

/-- The trees while a file that was opened is taken over and gets its preamble. -/
def fillMoments (process : Process) (conditions : Conditions) (path : Path) (identity : String)
    (trace : Trace) : List FileTree :=
  (watchFill conditions path identity trace (openFile process path trace.tree)).moments

/-- The trees while an archive is opened. -/
def startMoments (process : Process) (conditions : Conditions) (path : Path) (identity : String)
    (trace : Trace) : List FileTree :=
  (watchStart process conditions path identity trace).moments

theorem startMoments_eq : startMoments process conditions path identity trace =
    openMoments process path trace.tree ++
      fillMoments process conditions path identity trace := by
  rw [fillMoments, ← result_watchOpen]
  rfl

/-- Watches how a file is collected from. What others do in the meantime is their own matter, so it
counts as one step. -/
def watchCollect (request : Append) (session : Session) :
    Watched (EStateM.Result WriteFault Session Collection) where
  moments := [(left (request.collect session)).tree]
  result := request.collect session

/-- Watches an append; one that is refused before it collects needs no request. -/
def watchAppend (request : Append) (session : Session) :
    Watched (EStateM.Result WriteFault Session Collection) :=
  match session.writer.output, request.key.bytes with
  | some _, .ok key =>
      (watchCollect request session).chain fun collection collected =>
        (collected.watchRecord key collection.value).chain fun _ written =>
          still ((do announce request.key collection; pure collection : Acting Collection) written)
  | _, _ => still (request.perform session)

/-- Watches how a writer is closed. -/
def watchClose (session : Session) : Watched (EStateM.Result WriteFault Session Unit) :=
  match session.writer.output with
  | none => still (.ok () session)
  | some output =>
      (Disk.watchClose ⟨session.tree, output⟩).andThen fun (tree, refusal?) =>
        let closed := { session with tree, writer := { session.writer with output := none } }
        still (match refusal? with
          | none => .ok () closed
          | some refusal => .error (.refused refusal) closed)

private theorem result_watchAppend (request : Append) (session : Session) :
    (watchAppend request session).result = request.perform session := by
  unfold watchAppend
  split
  · rename_i output key opened good
    rw [Append.perform, append_of_key opened good]
    refine Watched.result_chain rfl fun collection collected => ?_
    exact Watched.result_chain (collected.result_watchRecord _ _) fun _ written => rfl
  · rfl

private theorem result_watchClose (session : Session) :
    session.watchClose.result = session.close := by
  unfold watchClose Session.close
  rw [Running.get_bind]
  cases opened : session.writer.output with
  | none => rfl
  | some output =>
    simp only [Watched.andThen, Disk.result_watchClose]
    rcases Disk.close ⟨session.tree, output⟩ with ⟨tree, _ | refusal⟩ <;> rfl

theorem leaving_eq {α : Type} (result : EStateM.Result WriteFault Session α) :
    leaving result = left result := by
  cases result <;> rfl

private theorem ends_watchAppend (request : Append) (session : Session) :
    (watchAppend request session).Ends session.tree fun result => (leaving result).tree := by
  unfold watchAppend
  split
  · have collecting : (watchCollect request session).Ends session.tree
        fun result => (leaving result).tree :=
      congrArg Session.tree (leaving_eq _).symm
    refine collecting.chain fun collection collected _ => ?_
    refine (collected.ends_watchRecord _ _).chain fun _ written _ => ?_
    exact Watched.ends_still rfl
  · rename_i refused
    refine Watched.ends_still ?_
    unfold Append.perform
    cases opened : session.writer.output with
    | none =>
      rw [append_of_closed opened]
      rfl
    | some output =>
      cases good : request.key.bytes with
      | error fault =>
        rw [append_of_badKey opened good]
        rfl
      | ok key => exact (refused output key opened good).elim

private theorem ends_watchClose (session : Session) :
    session.watchClose.Ends session.tree fun result => (leaving result).tree := by
  unfold watchClose
  split
  · exact Watched.ends_still rfl
  · refine (Disk.ends_watchClose _ _).andThen (Watched.ends_still ?_)
    split <;> rfl

end Session

namespace Call

open Session

/-- Watches how a call is answered. -/
def watch : Call → Session → Watched Session
  | append request, session => (watchAppend request session).andThen fun result => still (left result)
  | close, session => session.watchClose.andThen fun result => still (left result)
  | limit room closeFails, session =>
      still { session with writer := session.writer.limit room closeFails }

def watchAll : List Call → Session → Watched Session
  | [], session => still session
  | call :: calls, session => (call.watch session).andThen (watchAll calls)

theorem result_watch (call : Call) (session : Session) :
    (call.watch session).result = call.after session := by
  cases call with
  | append request => exact congrArg left (result_watchAppend request session)
  | close => exact congrArg left session.result_watchClose
  | limit => rfl

theorem result_watchAll (calls : List Call) (session : Session) :
    (watchAll calls session).result = afterAll calls session := by
  induction calls generalizing session with
  | nil => rfl
  | cons call calls ih =>
    simp only [watchAll, Watched.andThen, result_watch]
    exact ih (call.after session)

private theorem ends_watch (call : Call) (session : Session) :
    (call.watch session).Ends session.tree Session.tree := by
  cases call with
  | append request =>
    exact (ends_watchAppend request session).andThen
      (Watched.ends_still (congrArg Session.tree (leaving_eq _).symm))
  | close =>
    exact session.ends_watchClose.andThen
      (Watched.ends_still (congrArg Session.tree (leaving_eq _).symm))
  | limit => exact Watched.ends_still rfl

theorem ends_watchAll (calls : List Call) (session : Session) :
    (watchAll calls session).Ends session.tree Session.tree := by
  induction calls generalizing session with
  | nil => exact Watched.ends_still rfl
  | cons call calls ih => exact (call.ends_watch session).andThen (ih _)

/-- The trees while a call is answered. -/
def moments (call : Call) (session : Session) : List FileTree := (call.watch session).moments

def momentsAll (calls : List Call) (session : Session) : List FileTree :=
  (watchAll calls session).moments

end Call

end Archive

end ContainerLogs
