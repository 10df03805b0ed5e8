import ContainerLogs.Proofs.Archive.Session
import ContainerLogs.Proofs.FileTree.Layout

/-!
Opening an archive. Whatever stood at its path, a writer that is handed out has a file of its user's
own, which holds the preamble and nothing else.
-/
namespace ContainerLogs.Archive

open FileTree (SameBut)

/-- Records as they stand in the file one after the other. -/
def recordsBytes (records : List (Bytes × Bytes)) : Bytes :=
  records.flatMap fun (key, value) => recordBytes key value

@[simp] theorem recordsBytes_nil : recordsBytes [] = [] := rfl

@[simp] theorem recordsBytes_cons (record : Bytes × Bytes) (records : List (Bytes × Bytes)) :
    recordsBytes (record :: records) = recordBytes record.1 record.2 ++ recordsBytes records := by
  simp [recordsBytes]

@[simp] theorem recordsBytes_append (front back : List (Bytes × Bytes)) :
    recordsBytes (front ++ back) = recordsBytes front ++ recordsBytes back := by
  simp [recordsBytes]

theorem recordBytes_pos (key value : Bytes) : 0 < (recordBytes key value).length := by
  simp [recordBytes, Wire.counted]

theorem length_le_recordsBytes (records : List (Bytes × Bytes)) :
    records.length ≤ (recordsBytes records).length := by
  induction records with
  | nil => exact Nat.le_refl _
  | cons record records ih =>
    have positive := recordBytes_pos record.1 record.2
    rw [recordsBytes_cons, List.length_append, List.length_cons]
    omega

namespace Session

variable {session after : Session} {file owner : Nat} {bytes key value : Bytes} {output : Output}

/-- A record that was written fits its fields and stands in the file whole. -/
theorem writeRecord_eq_ok (opened : session.writer.output = some output)
    (h : session.Keeps file owner bytes) (written : writeRecord key value session = .ok () after) :
    Fits key value ∧ (∃ next, after.writer.output = some next) ∧ Beside file session after ∧
      after.Keeps file owner (bytes ++ recordBytes key value) := by
  by_cases fit : Fits key value
  · by_cases enough : ∀ room, output.room = some room → (recordBytes key value).length ≤ room
    · obtain ⟨after', next, whole, opened', beside, keeps, -⟩ := writeRecord_whole opened h fit enough
      obtain rfl : after' = after := by
        rw [written] at whole
        injection whole with _ same
        exact same.symm
      exact ⟨fit, ⟨next, opened'⟩, beside, keeps⟩
    · push Not at enough
      obtain ⟨room, limit, short⟩ := enough
      obtain ⟨after', torn, -⟩ := writeRecord_torn opened h fit limit short
      rw [written] at torn
      cases torn
  · obtain ⟨fault, refused⟩ := writeRecord_of_unfit opened fit
    rw [written] at refused
    cases refused

/-- Records that were written one after the other. -/
private theorem writeRecords_eq_ok {records : List (Bytes × Bytes)}
    (opened : session.writer.output = some output) (h : session.Keeps file owner bytes)
    (written : (records.forM fun (key, value) => writeRecord key value) session = .ok () after) :
    (∀ record ∈ records, Fits record.1 record.2) ∧ (∃ next, after.writer.output = some next) ∧
      Beside file session after ∧ after.Keeps file owner (bytes ++ recordsBytes records) := by
  induction records generalizing session output bytes with
  | nil =>
    cases written
    exact ⟨by simp, ⟨output, opened⟩, ⟨rfl, .refl _ _⟩, by simpa using h⟩
  | cons record records ih =>
    obtain ⟨key, value⟩ := record
    rw [Running.forM_cons] at written
    simp only at written
    cases first : writeRecord key value session with
    | error fault between =>
      rw [first] at written
      cases written
    | ok _ between =>
      rw [first] at written
      obtain ⟨fit, ⟨next, opened'⟩, beside, keeps⟩ := writeRecord_eq_ok opened h first
      obtain ⟨fits, opened'', beside', keeps'⟩ := ih opened' keeps written
      refine ⟨by simpa using ⟨fit, by simpa using fits⟩, opened'',
        ⟨beside'.path.trans beside.path, beside.frame.trans beside'.frame⟩, ?_⟩
      rw [recordsBytes_cons, ← List.append_assoc]
      exact keeps'

theorem attempted_eq_ok {fails : Bool} {request : Except Refusal FileTree} {tree : FileTree}
    (done : attempted fails request = .ok tree) : request = .ok tree := by
  unfold attempted at done
  split at done
  · cases done
  · exact done

/-- A file that was taken over belongs to the user, has the mode of an archive and is empty. -/
theorem takeOver_eq_none {conditions : Conditions} {path : String} {before after : FileTree}
    (taken : takeOver conditions path file before = (after, none)) :
    SameBut file before after ∧ after.node? file = some (archiveNode before.user []) ∧
      (before.node? file).any Node.isFile := by
  unfold takeOver at taken
  split at taken
  · cases taken
  · rename_i between changed
    split at taken
    · cases taken
    · rename_i emptied
      cases taken
      obtain ⟨rfl, ⟨kind, user, mode⟩, found, rfl⟩ :=
        FileTree.changeOpenMode_eq_ok (attempted_eq_ok changed)
      obtain ⟨rfl, content, owner, mode', regular⟩ :=
        FileTree.emptyOpen_eq_ok (attempted_eq_ok emptied)
      have remoded := FileTree.node?_setMode fileMode found
      obtain ⟨rfl, rfl, rfl⟩ : kind = .file content ∧ before.user = owner ∧ fileMode = mode' := by
        simpa using remoded.symm.trans regular
      refine ⟨(SameBut.update before file _).trans (FileTree.setContent_sameBut _ file _), ?_, ?_⟩
      · rw [FileTree.node?_setContent _ regular, fileMode_steady]
        rfl
      · rw [found]
        rfl

variable {process : Process} {conditions : Conditions} {path : Path} {identity : String}
  {trace made : Trace} {writer : Writer}

/-- The path of an archive leads to the file that was opened there. -/
private theorem openFile_eq_ok {tree opened : FileTree} {file : Nat}
    (opening : openFile process path tree = (opened, .ok file)) :
    opened.resolve path.text = .ok file := by
  unfold openFile at opening
  split at opening
  · cases opening
  · split at opening
    · cases opening
    · rename_i writable
      cases opening
      exact FileTree.resolve_of_openForWriting writable

/-- That path still leads there once the file was taken over, whatever is in it. -/
theorem resolve_of_takeOver {tree opened taken later : FileTree} {file owner : Nat} {content : Bytes}
    (opening : openFile process path tree = (opened, .ok file))
    (takingOver : takeOver conditions path.text file opened = (taken, none))
    (frame : SameBut file taken later)
    (there : later.node? file = some (archiveNode owner content)) :
    later.resolve path.text = .ok file := by
  obtain ⟨same, -, regular⟩ := takeOver_eq_none takingOver
  have layout := (same.trans frame).layout regular (by simp [there, archiveNode, Node.isFile])
  rw [layout.resolve_eq]
  exact openFile_eq_ok opening

/-- A file that was taken over is kept from the start. -/
theorem begun_keeps {opened taken : FileTree} {file : Nat}
    (takingOver : takeOver conditions path.text file opened = (taken, none)) :
    (begun conditions path identity file trace taken).Keeps file opened.user [] := by
  obtain ⟨-, node, -⟩ := takeOver_eq_none takingOver
  exact keeps_of_open rfl rfl (by simp [Disk.accepted, begun]) ⟨[], node, rfl⟩

/-- What a writer starts from: a file opened at its path, taken over, and holding the preamble. -/
theorem start_eq_ok
    (started : start process conditions path identity trace = .ok writer made) :
    ∃ (file : Nat) (opened taken : FileTree) (output : Output),
      openFile process path trace.tree = (opened, .ok file) ∧
      takeOver conditions path.text file opened = (taken, none) ∧
      writer.output = some output ∧ output.file = file ∧ writer.path = path ∧
      SameBut file taken made.tree ∧
      (∀ record ∈ preamble identity, Fits record.1 record.2) ∧
      Keeps ⟨made.tree, writer, made.journal⟩ file opened.user (recordsBytes (preamble identity)) := by
  unfold start at started
  split at started
  · cases started
  · rename_i opened file opening
    split at started
    · cases started
    · rename_i taken takingOver
      unfold handOut at started
      split at started
      · cases started
      · cases started
      · rename_i session written
        cases started
        have kept : (begun conditions path identity file trace taken).Keeps file opened.user [] :=
          begun_keeps takingOver
        obtain ⟨fits, ⟨output, outputEq⟩, beside, keeps⟩ := writeRecords_eq_ok rfl kept written
        obtain ⟨sameFile, accepted, content, holds⟩ := keeps.of_open outputEq
        refine ⟨file, opened, taken, output, opening, takingOver, outputEq, sameFile, beside.path,
          beside.frame, fits, ?_⟩
        exact keeps_of_open outputEq sameFile accepted ⟨content, holds.node, holds.position⟩

end Session

end ContainerLogs.Archive
