import ContainerLogs.Proofs.Archive.Run

/-!
How failures of the storage come out of a writer. A record that cannot be stored comes out as a torn
record, and closes the writer; nothing that is asked of an open writer lets a refusal of the archive's
storage out as it is. Closing does: it ends the output in any case, but where what was held back cannot
be stored, the refusal comes out bare. So does a failure of the place where a value is put aside before
it is appended, unless it is one of reading it back.
-/
namespace ContainerLogs.Archive

open Running

/-- The fault that is a refusal of the archive's storage passed on as it is. What a collection failed
with is told apart. -/
def WriteFault.isBare : WriteFault → Bool
  | .refused _ => true
  | _ => false

/-- Whether closing a writer will fail; a closed one has nothing left to close. -/
def Writer.closingFails (writer : Writer) : Bool := writer.output.any (·.closeFails)

theorem Writer.closingFails_of_closed {writer : Writer} (closed : writer.isClosed = true) :
    writer.closingFails = false := by
  rw [closingFails, Call.isClosed_iff.1 closed]
  rfl

namespace Disk

variable {disk : Disk}

private theorem limits_of_accept (disk : Disk) (bytes : Bytes) :
    (disk.accept bytes).output.room = disk.output.room ∧
      (disk.accept bytes).output.closeFails = disk.output.closeFails := by
  unfold accept
  simp only
  split
  · exact ⟨rfl, rfl⟩
  · split <;> exact ⟨rfl, rfl⟩

/-- What is written does not change how the output closes. -/
private theorem closeFails_of_write (bytes : Bytes) (disk : Disk) :
    (leaving (write bytes disk)).output.closeFails = disk.output.closeFails := by
  have accepted := (limits_of_accept disk (disk.fitting bytes)).2
  unfold write
  simp only
  split <;> exact accepted

private theorem closeFails_of_pieces (pieces : List Bytes) (disk : Disk) :
    (leaving (pieces.forM write disk)).output.closeFails = disk.output.closeFails := by
  induction pieces generalizing disk with
  | nil => rfl
  | cons piece pieces ih =>
    have here := closeFails_of_write piece disk
    rw [forM_cons]
    cases written : write piece disk with
    | error refusal after =>
      rw [written] at here
      exact here
    | ok _ between =>
      rw [written] at here
      exact (ih between).trans here

/-- A piece takes up its room, or there is not enough. -/
private theorem write_of_room {room : Nat} (limit : disk.output.room = some room) (bytes : Bytes) :
    (∃ after, write bytes disk = .error (.bare .noSpace) after) ∨
      ∃ after, write bytes disk = .ok () after ∧ bytes.length ≤ room ∧
        after.output.room = some (room - bytes.length) := by
  by_cases fits : bytes.length ≤ room
  · right
    have accepted := (limits_of_accept disk bytes).1
    refine ⟨(disk.accept bytes).occupy bytes.length, ?_, fits, ?_⟩
    · simp [write, fitting, limit, List.take_of_length_le fits]
    · simp [occupy, accepted, limit]
  · left
    refine ⟨(disk.accept (bytes.take room)).occupy (bytes.take room).length, ?_⟩
    simp only [write, fitting, limit]
    rw [if_pos (by rw [List.length_take]; omega)]

/-- Pieces for which there is not enough room are not all written. -/
private theorem pieces_of_short {room : Nat} {pieces : List Bytes}
    (limit : disk.output.room = some room) (short : room < pieces.flatten.length) :
    ∃ after, pieces.forM write disk = .error (.bare .noSpace) after := by
  induction pieces generalizing disk room with
  | nil => exact absurd short (Nat.not_lt_zero _)
  | cons piece pieces ih =>
    rw [forM_cons]
    rcases write_of_room limit piece with ⟨after, full⟩ | ⟨between, written, fits, limit'⟩
    · exact ⟨after, by rw [full]⟩
    · rw [List.flatten_cons, List.length_append] at short
      rw [written]
      exact ih limit' (by omega)

end Disk

namespace Session

variable {α β : Type} {session before : Session} {output : Output}

/-- How a program at work on a writer settles: it leaves open whether closing will fail, or it tears a
record and closes the writer. No refusal comes out bare. -/
inductive Settles (before : Session) : EStateM.Result WriteFault Session α → Prop where
  | done {a : α} {after : Session} (same : after.writer.closingFails = before.writer.closingFails) :
      Settles before (.ok a after)
  | torn {path : String} {refusal : Refusal} {after : Session} (closed : after.writer.isClosed = true) :
      Settles before (.error (.tornRecord path refusal) after)
  | refused {fault : WriteFault} {after : Session} (whole : fault.tears = false)
      (typed : fault.isBare = false)
      (same : after.writer.closingFails = before.writer.closingFails) :
      Settles before (.error fault after)

def Settling (program : Acting α) : Prop := ∀ session, Settles session (program session)

namespace Settling

theorem pure (a : α) : Settling (pure a : Acting α) := fun _ => .done rfl

private theorem get : Settling (get : Acting Session) := fun _ => .done rfl

theorem bind {first : Acting α} {next : α → Acting β} (here : Settling first)
    (there : ∀ a, Settling (next a)) : Settling (first >>= next) := by
  intro session
  have settles := here session
  cases made : first session with
  | error fault after =>
    rw [made] at settles
    rw [bind_of_error made]
    cases settles with
    | torn closed => exact .torn closed
    | refused whole typed same => exact .refused whole typed same
  | ok a between =>
    rw [made] at settles
    rw [bind_of_ok made]
    cases settles with
    | done same =>
      have rest := there a between
      generalize next a between = result at rest
      cases rest with
      | done same' => exact .done (same'.trans same)
      | torn closed => exact .torn closed
      | refused whole typed same' => exact .refused whole typed (same'.trans same)

theorem mapM {step : α → Acting β} (each : ∀ a, Settling (step a)) (list : List α) :
    Settling (list.mapM step) := by
  induction list with
  | nil => exact pure []
  | cons a list ih =>
    rw [List.mapM_cons]
    exact (each a).bind fun _ => ih.bind fun _ => pure _

private theorem note (severity : Severity) (message : String) : Settling (note severity message) :=
  fun _ => .done rfl

private theorem requireOpen : Settling requireOpen := by
  intro session
  cases opened : session.writer.output with
  | none =>
    rw [requireOpen_of_closed opened]
    exact .refused rfl rfl rfl
  | some output =>
    rw [requireOpen_of_open opened]
    exact .done rfl

private theorem liftKey (key : Key) : Settling (liftKey key) := by
  intro session
  unfold Session.liftKey
  cases key.bytes with
  | ok bytes => exact .done rfl
  | error fault => exact .refused rfl rfl rfl

private theorem collect (collector : Collector) (host : Host) (schedule : Schedule)
    (queries : Nat) :
    Settling (collect collector host schedule queries) := by
  intro session
  unfold Session.collect
  split
  · exact .done rfl
  · exact .refused rfl rfl rfl

private theorem raise_none : Settling (raise none) := pure ()

private theorem writeRecord (key value : Bytes) : Settling (writeRecord key value) := by
  intro session
  cases opened : session.writer.output with
  | none =>
    rw [Session.writeRecord, bind_of_error (requireOpen_of_closed opened)]
    exact .refused rfl rfl rfl
  | some output =>
    by_cases fit : Fits key value
    · rw [writeRecord_of_fits opened fit]
      have closing := Disk.closeFails_of_pieces
        [Wire.int key.length, key, Wire.long value.length, value] ⟨session.tree, output⟩
      cases written : [Wire.int key.length, key, Wire.long value.length, value].forM Disk.write
        ⟨session.tree, output⟩ with
      | ok _ disk =>
        rw [written] at closing
        replace closing : disk.output.closeFails = output.closeFails := closing
        rw [writePieces_of_ok written]
        apply Settles.done
        simp [Writer.closingFails, opened, closing]
      | error refusal disk =>
        obtain ⟨journal, torn⟩ := writePieces_of_error written
        rw [torn]
        exact .torn rfl
    · obtain ⟨fault, unfit⟩ := writeRecord_of_unfit opened fit
      rw [unfit]
      exact .refused rfl rfl rfl

theorem append (key : Key) (collector : Collector) (host : Host) (schedule : Schedule)
    (queries : Nat) : Settling (append key collector host schedule queries) := by
  have written (keyBytes value : Bytes) : Settling (writeSpooled keyBytes value none) :=
    writeRecord keyBytes value
  have gathered (keyBytes : Bytes) : Settling (releasing none do
      let collection ← Session.collect collector host schedule queries
      raise none
      writeSpooled keyBytes collection.value none
      Pure.pure collection) :=
    (collect collector host schedule queries).bind fun collection => raise_none.bind fun _ =>
      (written keyBytes collection.value).bind fun _ => pure collection
  exact requireOpen.bind fun _ => (liftKey key).bind fun _ => (gathered _).bind fun _ =>
    get.bind fun _ => (note _ _).bind fun _ => pure _

end Settling

/-- Closing ends the output in any case. -/
theorem isClosed_of_close (session : Session) : (left (close session)).writer.isClosed = true := by
  cases opened : session.writer.output with
  | none =>
    rw [close_of_closed opened]
    exact Call.isClosed_iff.2 opened
  | some output =>
    unfold close
    rw [get_bind, opened]
    cases closing : (Disk.close ⟨session.tree, output⟩).2 <;> simp only [closing] <;> rfl

/-- Closing fails exactly if the output does, and the refusal comes out as it is. -/
theorem close_eq (session : Session) : close session =
    if session.writer.closingFails then .error (.refused (.bare .deviceFault)) (left (close session))
    else .ok () (left (close session)) := by
  cases opened : session.writer.output with
  | none =>
    rw [close_of_closed opened]
    simp [Writer.closingFails, opened, left]
  | some output =>
    unfold close
    rw [get_bind, opened]
    cases fails : output.closeFails <;>
      simp [Disk.close, Writer.closingFails, opened, fails, left] <;> rfl

end Session

open Session

/-- A record for which there is not enough room is torn, and the writer is closed. -/
private theorem Append.perform_of_short {request : Append} {session collected : Session}
    {output : Output} {key : Bytes} {collection : Collection} {room : Nat}
    (opened : session.writer.output = some output) (good : request.key.bytes = .ok key)
    (made : request.collect session = .ok collection collected) (fit : Fits key collection.value)
    (limit : output.room = some room) (short : room < (recordBytes key collection.value).length) :
    ∃ after, request.perform session =
        .error (.tornRecord session.writer.path.text (.bare .noSpace)) after ∧
      after.writer.isClosed = true := by
  have same : (left (request.collect session)).writer = session.writer := writer_of_collect session
  rw [made] at same
  replace same : collected.writer = session.writer := same
  rw [← flatten_pieces] at short
  have full : ∃ disk, [Wire.int key.length, key, Wire.long collection.value.length,
      collection.value].forM Disk.write ⟨collected.tree, output⟩ = .error (.bare .noSpace) disk :=
    Disk.pieces_of_short limit short
  obtain ⟨disk, full⟩ := full
  obtain ⟨journal, torn⟩ := writePieces_of_error full
  rw [← writeRecord_of_fits (same ▸ opened) fit, same] at torn
  exact ⟨_, append_of_writeFault opened good made torn, rfl⟩

namespace Append

section Spooled

variable {request : Append} {spool : Trouble} {session collected : Session} {output : Output}
  {key : Bytes} {collection : Collection} {errno : Errno} {given : Nat}
  (opened : session.writer.output = some output) (good : request.key.bytes = .ok key)
include opened good

/-- A value that cannot be gone back to is not written. -/
private theorem performSpooled_of_rewinding
    (made : request.collect session = .ok collection collected)
    (rewinding : spool.rewinding = some errno) (kept : spool.closing = none) :
    request.performSpooled spool session = .error (.refused (.bare errno)) collected ∧
      collected.writer = session.writer := by
  have same : (left (request.collect session)).writer = session.writer := writer_of_collect session
  rw [made] at same
  refine ⟨?_, same⟩
  rw [performSpooled, appendSpooled_of_key opened good, kept, releasing_none, rewinding]
  refine bind_of_error ?_ _
  rw [collect] at made
  rw [bind_of_ok made]
  rfl

/-- A value that cannot be read back to its end makes a torn record. -/
private theorem performSpooled_of_reading
    (made : request.collect session = .ok collection collected) (fit : Fits key collection.value)
    (rewinding : spool.rewinding = none) (reading : spool.handing = some (errno, given))
    (early : given ≤ collection.value.length) (kept : spool.closing = none) :
    ∃ refusal after, request.performSpooled spool session =
        .error (.tornRecord session.writer.path.text refusal) after ∧
      after.writer.isClosed = true := by
  have same : (left (request.collect session)).writer = session.writer := writer_of_collect session
  rw [made] at same
  replace same : collected.writer = session.writer := same
  have opened' : collected.writer.output = some output := same ▸ opened
  suffices ∃ refusal after, writeSpooled key collection.value (some (errno, given)) collected =
      .error (.tornRecord session.writer.path.text refusal) after ∧ after.writer.isClosed = true by
    obtain ⟨refusal, after, torn, closed⟩ := this
    refine ⟨refusal, after, ?_, closed⟩
    rw [performSpooled, appendSpooled_of_key opened good, kept, releasing_none, rewinding, reading]
    refine bind_of_error ?_ _
    rw [collect] at made
    rw [bind_of_ok made]
    exact bind_of_error torn _
  simp only [writeSpooled, if_neg (Nat.not_lt.2 early)]
  rw [bind_of_ok (requireOpen_of_open opened'), recordPieces?_of_fits fit, ← same]
  simp only
  generalize List.dropLast _ ++ _ = pieces
  cases written : pieces.forM Disk.write ⟨collected.tree, output⟩ with
  | error refusal disk =>
    obtain ⟨journal, torn⟩ := writePieces_of_error written
    exact ⟨refusal, _, bind_of_error torn _, rfl⟩
  | ok _ disk =>
    rw [bind_of_ok (writePieces_of_ok written), bind_of_ok (requireOpen_of_open rfl), get_bind]
    obtain ⟨journal, abandoned⟩ := abandon_eq _ ⟨disk.tree, disk.output⟩
    rw [bind_of_ok abandoned]
    exact ⟨_, _, rfl, rfl⟩

/-- Where the place that a value was put aside in cannot be closed, only that is heard, whatever became
of the record. -/
private theorem performSpooled_of_releasing (releasing : spool.closing = some errno) :
    ∃ after, request.performSpooled spool session = .error (.refused (.bare errno)) after ∧
      after.writer = (left (request.performSpooled { spool with closing := none } session)).writer ∧
      after.tree = (left (request.performSpooled { spool with closing := none } session)).tree := by
  rw [performSpooled, performSpooled, appendSpooled_of_key opened good,
    appendSpooled_of_key opened good, releasing, releasing_none]
  generalize gathering : (do
    let collection ← Session.collect request.collector request.host request.schedule request.queries
    raise spool.rewinding
    writeSpooled key collection.value spool.handing
    pure collection : Acting Collection) = step
  rw [bind_of_error (releasing_some errno step session)]
  cases made : step session with
  | ok collection after =>
    rw [bind_of_ok made]
    exact ⟨after, rfl, rfl, rfl⟩
  | error fault after =>
    rw [bind_of_error made]
    exact ⟨after, rfl, rfl, rfl⟩

end Spooled

end Append

/-- How the failures of the storage come out of a writer, whatever was asked of it before. -/
structure FailsClosed (session : Session) : Prop where
  /-- An append that cannot store its record fails as torn and closes the writer. -/
  storing {request : Append} {collected : Session} {output : Output} {key : Bytes}
    {collection : Collection} {room : Nat}
    (opened : session.writer.output = some output) (good : request.key.bytes = .ok key)
    (made : request.collect session = .ok collection collected) (fit : Fits key collection.value)
    (limit : output.room = some room) (short : room < (recordBytes key collection.value).length) :
    ∃ after, request.perform session =
        .error (.tornRecord session.writer.path.text (.bare .noSpace)) after ∧
      after.writer.isClosed = true
  /-- No append lets a refusal of the archive's storage out bare, and none tears a record but by closing
  the writer. -/
  appending {request : Append} {fault : WriteFault} {after : Session}
    (failed : request.perform session = .error fault after) :
    fault.isBare = false ∧ (fault.tears = true → after.writer.isClosed = true)
  /-- Where a value that was put aside cannot be gone back to, the refusal comes out bare, and the writer
  is as it was. -/
  rewinding {request : Append} {spool : Trouble} {collected : Session} {output : Output} {key : Bytes}
    {collection : Collection} {errno : Errno}
    (opened : session.writer.output = some output) (good : request.key.bytes = .ok key)
    (made : request.collect session = .ok collection collected)
    (rewinding : spool.rewinding = some errno) (kept : spool.closing = none) :
    request.performSpooled spool session = .error (.refused (.bare errno)) collected ∧
      collected.writer = session.writer
  /-- Where it cannot be read back to its end, the record is torn and the writer closed. -/
  reading {request : Append} {spool : Trouble} {collected : Session} {output : Output} {key : Bytes}
    {collection : Collection} {errno : Errno} {given : Nat}
    (opened : session.writer.output = some output) (good : request.key.bytes = .ok key)
    (made : request.collect session = .ok collection collected) (fit : Fits key collection.value)
    (rewinding : spool.rewinding = none) (reading : spool.handing = some (errno, given))
    (early : given ≤ collection.value.length) (kept : spool.closing = none) :
    ∃ refusal after, request.performSpooled spool session =
        .error (.tornRecord session.writer.path.text refusal) after ∧
      after.writer.isClosed = true
  /-- Where it cannot be let go of, the refusal comes out bare, and all else is as it would be. -/
  releasing {request : Append} {spool : Trouble} {output : Output} {key : Bytes} {errno : Errno}
    (opened : session.writer.output = some output) (good : request.key.bytes = .ok key)
    (releasing : spool.closing = some errno) :
    ∃ after, request.performSpooled spool session = .error (.refused (.bare errno)) after ∧
      after.writer = (left (request.performSpooled { spool with closing := none } session)).writer ∧
      after.tree = (left (request.performSpooled { spool with closing := none } session)).tree
  /-- Closing closes the writer in any case. -/
  closed : (left (close session)).writer.isClosed = true
  /-- Where closing fails, the refusal comes out bare. -/
  closing : (∃ fault after, close session = .error fault after) ↔
    session.writer.closingFails = true
  bare {fault : WriteFault} {after : Session} (failed : close session = .error fault after) :
    fault = .refused (.bare .deviceFault)

theorem failsClosed (session : Session) : FailsClosed session where
  storing := Append.perform_of_short
  appending {request fault after} failed := by
    have settles := Settling.append request.key request.collector request.host request.schedule
      request.queries session
    rw [← Append.perform, failed] at settles
    cases settles with
    | torn closed => exact ⟨rfl, fun _ => closed⟩
    | refused whole typed => exact ⟨typed, fun tears => absurd tears (by simp [whole])⟩
  rewinding := Append.performSpooled_of_rewinding
  reading := Append.performSpooled_of_reading
  releasing := Append.performSpooled_of_releasing
  closed := isClosed_of_close session
  closing := by
    rw [close_eq]
    split <;> simp_all
  bare {fault after} failed := by
    rw [close_eq] at failed
    split at failed
    · cases failed
      rfl
    · cases failed

end ContainerLogs.Archive
