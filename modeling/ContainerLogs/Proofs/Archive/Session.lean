import ContainerLogs.Proofs.Archive.Output
import ContainerLogs.Proofs.Wire.Integer

/-!
What one request does to an archive under its writer: a record is written whole, is torn where there
was no more room and closes the writer, or is refused before its first byte.
-/
namespace ContainerLogs.Archive

open FileTree (SameBut)
open Running

namespace Session

/-- The bytes that the file of an archive has accepted; what a closed writer left is in the file. -/
def archived (file : Nat) (session : Session) : Bytes :=
  match session.writer.output with
  | some output => Disk.accepted ⟨session.tree, output⟩
  | none => session.tree.content file

/-- The file of an archive is as its writer wants it, and has accepted the given bytes. -/
def Keeps (session : Session) (file owner : Nat) (bytes : Bytes) : Prop :=
  match session.writer.output with
  | some output => output.file = file ∧ Disk.accepted ⟨session.tree, output⟩ = bytes ∧
      ∃ content, Disk.Holds ⟨session.tree, output⟩ owner content
  | none => session.tree.node? file = some (archiveNode owner bytes)

variable {session : Session} {file owner : Nat} {bytes : Bytes} {output : Output}

theorem Keeps.archived_eq (h : session.Keeps file owner bytes) : session.archived file = bytes := by
  unfold Keeps at h
  unfold archived
  split at h
  · exact h.2.1
  · exact FileTree.content_of_node? h

theorem Keeps.of_open (opened : session.writer.output = some output)
    (h : session.Keeps file owner bytes) : output.file = file ∧
      Disk.accepted ⟨session.tree, output⟩ = bytes ∧
      ∃ content, Disk.Holds ⟨session.tree, output⟩ owner content := by
  rw [Keeps, opened] at h
  exact h

theorem keeps_of_open (opened : session.writer.output = some output)
    (sameFile : output.file = file) (accepted : Disk.accepted ⟨session.tree, output⟩ = bytes)
    (holds : ∃ content, Disk.Holds ⟨session.tree, output⟩ owner content) :
    session.Keeps file owner bytes := by
  rw [Keeps, opened]
  exact ⟨sameFile, accepted, holds⟩

private theorem keeps_of_closed (closed : session.writer.output = none)
    (h : session.tree.node? file = some (archiveNode owner bytes)) :
    session.Keeps file owner bytes := by
  rw [Keeps, closed]
  exact h

theorem Keeps.of_closed (closed : session.writer.output = none) (h : session.Keeps file owner bytes) :
    session.tree.node? file = some (archiveNode owner bytes) := by
  rw [Keeps, closed] at h
  exact h

theorem Keeps.node (h : session.Keeps file owner bytes) :
    ∃ content, session.tree.node? file = some (archiveNode owner content) := by
  cases opened : session.writer.output with
  | none => exact ⟨bytes, h.of_closed opened⟩
  | some output =>
    obtain ⟨rfl, -, content, holds⟩ := h.of_open opened
    exact ⟨content, holds.node⟩

/-- Acts of others that leave the file of the archive alone leave alone what was accepted. -/
theorem Keeps.of_spared {after : Session} (h : session.Keeps file owner bytes)
    (sameWriter : after.writer = session.writer)
    (spared : after.tree.node? file = session.tree.node? file) : after.Keeps file owner bytes := by
  cases opened : session.writer.output with
  | none => exact keeps_of_closed (by rw [sameWriter, opened]) (spared.trans (h.of_closed opened))
  | some output =>
    obtain ⟨rfl, accepted, content, holds⟩ := h.of_open opened
    have holds' : Disk.Holds ⟨after.tree, output⟩ owner content :=
      ⟨spared.trans holds.node, holds.position⟩
    refine keeps_of_open (by rw [sameWriter, opened]) rfl ?_ ⟨content, holds'⟩
    rw [holds'.accepted_eq, ← accepted, holds.accepted_eq]

/-- What a request leaves of a session, done or not. -/
def left {α : Type} : EStateM.Result WriteFault Session α → Session
  | .ok _ session => session
  | .error _ session => session

/-- The writer is where it was, and its tree was touched in the file of the archive only. -/
structure Beside (file : Nat) (before after : Session) : Prop where
  path : after.writer.path = before.writer.path
  frame : SameBut file before.tree after.tree

theorem requireOpen_of_open (opened : session.writer.output = some output) :
    requireOpen session = .ok output session := by
  simp [requireOpen, opened]

theorem requireOpen_of_closed (closed : session.writer.output = none) :
    requireOpen session = .error (.closed session.writer.path.text) session := by
  simp only [requireOpen, get_bind, closed]
  rfl

/-- The lengths of a record fit their fields. -/
def Fits (key value : Bytes) : Prop :=
  Wire.fits Wire.intWidth key.length = true ∧ Wire.fits Wire.longWidth value.length = true

private theorem recordPieces?_eq (key value : Bytes) : recordPieces? key value =
    (Wire.int? key.length >>= fun keyLength => Wire.long? value.length >>= fun valueLength =>
      .ok [keyLength, key, valueLength, value]) := rfl

theorem recordPieces?_of_fits {key value : Bytes} (h : Fits key value) :
    recordPieces? key value =
      .ok [Wire.int key.length, key, Wire.long value.length, value] := by
  rw [recordPieces?_eq, Wire.int?_of_fits h.1, Wire.long?_of_fits h.2]
  rfl

private theorem recordPieces?_of_unfit {key value : Bytes} (h : ¬ Fits key value) :
    ∃ fault, recordPieces? key value = .error fault := by
  rw [recordPieces?_eq]
  cases first : Wire.int? (key.length : Int) with
  | error fault => exact ⟨fault, rfl⟩
  | ok keyLength =>
    cases second : Wire.long? (value.length : Int) with
    | error fault => exact ⟨fault, rfl⟩
    | ok valueLength => exact absurd ⟨(Wire.int?_eq_ok first).1, (Wire.long?_eq_ok second).1⟩ h

theorem flatten_pieces (key value : Bytes) :
    [Wire.int key.length, key, Wire.long value.length, value].flatten = recordBytes key value := by
  simp [recordBytes, Wire.counted]

theorem writePieces_of_ok {pieces : List Bytes} {disk : Disk}
    (h : pieces.forM Disk.write ⟨session.tree, output⟩ = .ok () disk) :
    writePieces output pieces session = .ok () { session with
      tree := disk.tree
      writer := { session.writer with output := some disk.output } } := by
  unfold writePieces
  rw [get_bind, h]
  rfl

/-- Whether or not closing the file fails, its bytes are kept and the writer has let go of it. -/
theorem abandon_eq (session : Session) (disk : Disk) : ∃ journal,
    abandon disk session = .ok () { session with
      tree := disk.close.1
      writer := { session.writer with output := none }
      journal } := by
  unfold abandon letGo
  rcases closing : disk.close with ⟨tree, _ | refusal⟩
  · exact ⟨session.journal, rfl⟩
  · exact ⟨_, rfl⟩

theorem writePieces_of_error {pieces : List Bytes} {disk : Disk} {refusal : Refusal}
    (h : pieces.forM Disk.write ⟨session.tree, output⟩ = .error refusal disk) : ∃ journal,
    writePieces output pieces session = .error (.tornRecord session.writer.path.text refusal)
      { session with
        tree := disk.close.1
        writer := { session.writer with output := none }
        journal } := by
  obtain ⟨journal, abandoned⟩ := abandon_eq session disk
  refine ⟨journal, ?_⟩
  unfold writePieces
  rw [get_bind, h]
  exact bind_of_ok abandoned _

theorem writeRecord_of_fits {key value : Bytes} (opened : session.writer.output = some output)
    (h : Fits key value) : writeRecord key value session =
      writePieces output [Wire.int key.length, key, Wire.long value.length, value] session := by
  unfold writeRecord
  rw [bind_of_ok (requireOpen_of_open opened), recordPieces?_of_fits h]

theorem writeRecord_of_unfit {key value : Bytes} (opened : session.writer.output = some output)
    (h : ¬ Fits key value) : ∃ fault,
    writeRecord key value session = .error (.outOfRange fault) session := by
  obtain ⟨fault, refused⟩ := recordPieces?_of_unfit h
  refine ⟨fault, ?_⟩
  unfold writeRecord
  rw [bind_of_ok (requireOpen_of_open opened), refused]
  rfl

/-- A record for which there is room is written whole. -/
theorem writeRecord_whole {key value : Bytes} (opened : session.writer.output = some output)
    (h : session.Keeps file owner bytes) (fit : Fits key value)
    (enough : ∀ room, output.room = some room → (recordBytes key value).length ≤ room) :
    ∃ after next, writeRecord key value session = .ok () after ∧
      after.writer.output = some next ∧ Beside file session after ∧
      after.Keeps file owner (bytes ++ recordBytes key value) ∧
      next.room = output.room.map (· - (recordBytes key value).length) := by
  obtain ⟨rfl, accepted, content, holds⟩ := h.of_open opened
  have flat := flatten_pieces key value
  rcases Disk.takes_pieces _ holds with ⟨disk, written, takes, -⟩ | ⟨room, disk, -, limit, short, -⟩
  · rw [flat] at takes
    refine ⟨_, disk.output, (writeRecord_of_fits opened fit).trans (writePieces_of_ok written), rfl,
      ⟨rfl, takes.frame⟩, ?_, takes.room⟩
    exact keeps_of_open rfl takes.file (by rw [← accepted]; exact takes.accepted) takes.holds
  · rw [flat] at short
    have room_fits := enough room limit
    omega

/-- A record for which there is not enough room is cut off where the room ends, and the writer is
closed. -/
theorem writeRecord_torn {key value : Bytes} {room : Nat}
    (opened : session.writer.output = some output) (h : session.Keeps file owner bytes)
    (fit : Fits key value) (limit : output.room = some room)
    (short : room < (recordBytes key value).length) :
    ∃ after, writeRecord key value session =
        .error (.tornRecord session.writer.path.text (.bare .noSpace)) after ∧
      after.writer.output = none ∧ Beside file session after ∧
      after.Keeps file owner (bytes ++ (recordBytes key value).take room) := by
  obtain ⟨rfl, accepted, content, holds⟩ := h.of_open opened
  have flat := flatten_pieces key value
  rcases Disk.takes_pieces _ holds with ⟨disk, -, -, enough⟩ | ⟨other, disk, written, same, -, takes⟩
  · rw [flat] at enough
    have room_fits := enough room limit
    omega
  · obtain rfl : room = other := Option.some.inj (limit.symm.trans same)
    rw [flat] at takes
    obtain ⟨journal, torn⟩ := writePieces_of_error written
    obtain ⟨content', holds'⟩ := takes.holds
    have stored := Disk.close_node holds'
    rw [takes.file, takes.accepted, accepted] at stored
    refine ⟨_, (writeRecord_of_fits opened fit).trans torn, rfl, ⟨rfl, ?_⟩, keeps_of_closed rfl stored⟩
    have closing := Disk.close_sameBut disk
    rw [takes.file] at closing
    exact takes.frame.trans closing

section Append

variable {key : Key} {collector : Collector} {host : Host} {schedule : Schedule} {queries : Nat}

theorem append_of_closed (closed : session.writer.output = none) :
    append key collector host schedule queries session =
      .error (.closed session.writer.path.text) session :=
  bind_of_error (requireOpen_of_closed closed) _

theorem append_of_badKey {fault : KeyFault} (opened : session.writer.output = some output)
    (bad : key.bytes = .error fault) :
    append key collector host schedule queries session = .error (.key fault) session := by
  unfold append appendSpooled
  rw [bind_of_ok (requireOpen_of_open opened)]
  exact bind_of_error (by rw [liftKey, bad]; rfl) _

theorem releasing_none {α : Type} (step : Acting α) : releasing none step = step := rfl

theorem releasing_some {α : Type} (errno : Errno) (step : Acting α) (session : Session) :
    releasing (some errno) step session =
      .error (.refused (.bare errno)) (left (step session)) := by
  unfold releasing
  cases step session <;> rfl

/-- An append under a good key is its collection, then the writing of what was put aside. -/
theorem appendSpooled_of_key {keyBytes : Bytes} (opened : session.writer.output = some output)
    (good : key.bytes = .ok keyBytes) (spool : Trouble) :
    appendSpooled spool key collector host schedule queries session =
      (do let collection ← releasing spool.closing do
            let collection ← collect collector host schedule queries
            raise spool.rewinding
            writeSpooled keyBytes collection.value spool.handing
            pure collection
          announce key collection
          pure collection : Acting Collection) session := by
  have lifted : liftKey key session = .ok keyBytes session := by
    rw [liftKey, good]
    rfl
  unfold appendSpooled
  rw [bind_of_ok (requireOpen_of_open opened), bind_of_ok lifted]

/-- An append under a good key is its collection, then the writing of what was collected. -/
theorem append_of_key {keyBytes : Bytes} (opened : session.writer.output = some output)
    (good : key.bytes = .ok keyBytes) : append key collector host schedule queries session =
      (do let collection ← collect collector host schedule queries
          writeRecord keyBytes collection.value
          announce key collection
          pure collection : Acting Collection) session := by
  rw [append, appendSpooled_of_key opened good, releasing_none]
  simp only [bind_assoc, pure_bind]
  rfl

variable {keyBytes : Bytes} {collection : Collection} {collected : Session}

theorem append_of_collectFault {fault : WriteFault} (opened : session.writer.output = some output)
    (good : key.bytes = .ok keyBytes)
    (failed : collect collector host schedule queries session = .error fault collected) :
    append key collector host schedule queries session = .error fault collected := by
  rw [append_of_key opened good]
  exact bind_of_error failed _

theorem append_of_writeFault {fault : WriteFault} {after : Session}
    (opened : session.writer.output = some output) (good : key.bytes = .ok keyBytes)
    (made : collect collector host schedule queries session = .ok collection collected)
    (failed : writeRecord keyBytes collection.value collected = .error fault after) :
    append key collector host schedule queries session = .error fault after := by
  rw [append_of_key opened good, bind_of_ok made]
  exact bind_of_error failed _

theorem append_of_written {after : Session} (opened : session.writer.output = some output)
    (good : key.bytes = .ok keyBytes)
    (made : collect collector host schedule queries session = .ok collection collected)
    (written : writeRecord keyBytes collection.value collected = .ok () after) : ∃ journal,
    append key collector host schedule queries session = .ok collection { after with journal } := by
  rw [append_of_key opened good, bind_of_ok made, bind_of_ok written]
  exact ⟨_, rfl⟩

theorem fault_of_collect {fault : WriteFault}
    (failed : collect collector host schedule queries session = .error fault collected) :
    ∃ cause, fault = .collection cause := by
  unfold collect at failed
  split at failed
  · cases failed
  · cases failed
    exact ⟨_, rfl⟩

theorem produce_of_collect
    (made : collect collector host schedule queries session = .ok collection collected) :
    collector.produce host schedule session.tree queries = .ok () collection := by
  unfold collect at made
  split at made
  · rename_i produced
    cases made
    exact produced
  · cases made

/-- Collecting leaves the writer alone. -/
theorem writer_of_collect (session : Session) :
    (left (collect collector host schedule queries session)).writer = session.writer := by
  unfold collect
  split <;> rfl

end Append

/-- Once the writer has let go of the file, it holds all bytes accepted. -/
theorem close_of_open (opened : session.writer.output = some output)
    (h : session.Keeps file owner bytes) :
    (left (close session)).writer.output = none ∧ Beside file session (left (close session)) ∧
      (left (close session)).Keeps file owner bytes := by
  obtain ⟨rfl, accepted, content, holds⟩ := h.of_open opened
  have stored := Disk.close_node holds
  rw [accepted] at stored
  have same := Disk.close_sameBut ⟨session.tree, output⟩
  have closed : left (close session) = { session with
      tree := (Disk.close ⟨session.tree, output⟩).1
      writer := { session.writer with output := none } } := by
    unfold close
    rw [get_bind, opened]
    cases closing : (Disk.close ⟨session.tree, output⟩).2 with
    | none => simp only [closing]; rfl
    | some refusal => simp only [closing]; rfl
  rw [closed]
  exact ⟨rfl, ⟨rfl, same⟩, keeps_of_closed rfl stored⟩

theorem close_of_closed (closed : session.writer.output = none) :
    close session = .ok () session := by
  unfold close
  rw [get_bind, closed]
  rfl

theorem Keeps.limit (h : session.Keeps file owner bytes) (room : Option Nat) (closeFails : Bool) :
    Keeps { session with writer := session.writer.limit room closeFails } file owner bytes := by
  cases opened : session.writer.output with
  | none =>
    have stored := h.of_closed opened
    exact keeps_of_closed (by rw [Writer.limit, opened]; rfl) stored
  | some output =>
    obtain ⟨sameFile, accepted, content, holds⟩ := h.of_open opened
    have limited : (session.writer.limit room closeFails).output =
        some (output.limit room closeFails) := by
      rw [Writer.limit, opened]
      rfl
    exact keeps_of_open limited sameFile accepted ⟨content, holds.node, holds.position⟩

end Session

end ContainerLogs.Archive
