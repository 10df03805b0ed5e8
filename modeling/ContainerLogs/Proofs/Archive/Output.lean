import ContainerLogs.Archive.Writer
import ContainerLogs.Proofs.FileTree.Frame
import ContainerLogs.Proofs.Running

/-!
What an output takes in. Its file holds what was put there, the buffer what is held back, and both
together are all bytes accepted so far; a write adds as many of its bytes as there is room for.
-/
namespace ContainerLogs.Archive

open FileTree (SameBut)

/-- The file of an archive as its writer keeps it. -/
def archiveNode (owner : Nat) (content : Bytes) : Node := ⟨.file content, owner, fileMode⟩

theorem fileMode_steady : FileTree.modeAfterWriting fileMode = fileMode := by decide

namespace Disk

/-- The file of an output holds a content, at the end of which the output stands. -/
structure Holds (disk : Disk) (owner : Nat) (content : Bytes) : Prop where
  node : disk.tree.node? disk.output.file = some (archiveNode owner content)
  position : disk.output.position = content.length

variable {disk : Disk} {owner : Nat} {content : Bytes}

private theorem Holds.content_eq (h : disk.Holds owner content) :
    disk.tree.content disk.output.file = content :=
  FileTree.content_of_node? h.node

theorem Holds.accepted_eq (h : disk.Holds owner content) :
    disk.accepted = content ++ disk.output.held := by
  rw [accepted, h.content_eq, h.position, List.take_length]

theorem Holds.store (h : disk.Holds owner content) (bytes : Bytes) :
    (disk.store bytes).Holds owner (content ++ bytes) where
  node := by
    show (disk.tree.store disk.output.file disk.output.position bytes).node? disk.output.file = _
    rw [h.position]
    exact FileTree.node?_store_end bytes fileMode_steady h.node
  position := by
    show disk.output.position + bytes.length = _
    rw [h.position, List.length_append]

private theorem Holds.hold (h : disk.Holds owner content) (bytes : Bytes) :
    (disk.hold bytes).Holds owner content := ⟨h.node, h.position⟩

theorem Holds.flush (h : disk.Holds owner content) :
    disk.flush.Holds owner (content ++ disk.output.held) := (h.store _).hold []

private theorem store_sameBut (disk : Disk) (bytes : Bytes) :
    SameBut disk.output.file disk.tree (disk.store bytes).tree :=
  FileTree.store_sameBut _ _ _ _

/-- What an output makes of bytes that it takes in, whichever way they go. -/
structure Takes (owner : Nat) (before : Disk) (bytes : Bytes) (after : Disk) : Prop where
  file : after.output.file = before.output.file
  frame : SameBut before.output.file before.tree after.tree
  holds : ∃ content, after.Holds owner content
  accepted : after.accepted = before.accepted ++ bytes
  room : after.output.room = before.output.room.map (· - bytes.length)

private theorem Takes.nil (h : disk.Holds owner content) : Takes owner disk [] disk where
  file := rfl
  frame := .refl _ _
  holds := ⟨content, h⟩
  accepted := (List.append_nil _).symm
  room := by simp

private theorem Takes.trans {first second third : Disk} {front back : Bytes}
    (h : Takes owner first front second) (h' : Takes owner second back third) :
    Takes owner first (front ++ back) third where
  file := h'.file.trans h.file
  frame := h.frame.trans (h.file ▸ h'.frame)
  holds := h'.holds
  accepted := by rw [h'.accepted, h.accepted, List.append_assoc]
  room := by
    rw [h'.room, h.room, Option.map_map]
    congr 1
    funext room
    simp only [Function.comp_apply, List.length_append]
    omega

private theorem takes_accept (h : disk.Holds owner content) (bytes : Bytes) :
    Takes owner disk bytes ((disk.accept bytes).occupy bytes.length) := by
  have before := h.accepted_eq
  unfold accept
  simp only
  split
  · have after := (h.hold (disk.output.held ++ bytes)).accepted_eq
    refine ⟨rfl, .refl _ _, ⟨content, h.node, h.position⟩, ?_, rfl⟩
    rw [before, List.append_assoc]
    exact after
  · split
    · have after := h.flush.hold bytes
      refine ⟨rfl, store_sameBut _ _, ⟨_, after.node, after.position⟩, ?_, rfl⟩
      rw [before]
      exact after.accepted_eq
    · have after := h.flush.store bytes
      refine ⟨rfl, (store_sameBut _ _).trans (store_sameBut disk.flush bytes),
        ⟨_, after.node, after.position⟩, ?_, rfl⟩
      rw [before]
      exact after.accepted_eq.trans (List.append_nil _)

theorem takes_write (h : disk.Holds owner content) (bytes : Bytes) :
    (∃ after, write bytes disk = .ok () after ∧ Takes owner disk bytes after ∧
      ∀ room, disk.output.room = some room → bytes.length ≤ room) ∨
    (∃ room after, write bytes disk = .error (.bare .noSpace) after ∧
      disk.output.room = some room ∧ room < bytes.length ∧
      Takes owner disk (bytes.take room) after) := by
  cases limit : disk.output.room with
  | none =>
    left
    refine ⟨_, ?_, takes_accept h bytes, by simp⟩
    simp [write, fitting, limit]
  | some room =>
    by_cases fits : bytes.length ≤ room
    · left
      refine ⟨_, ?_, takes_accept h bytes, ?_⟩
      · simp [write, fitting, limit, List.take_of_length_le fits]
      · rintro _ ⟨⟩
        exact fits
    · right
      refine ⟨room, _, ?_, rfl, by omega, takes_accept h (bytes.take room)⟩
      simp only [write, fitting, limit]
      rw [if_pos (by rw [List.length_take]; omega)]

/-- Pieces written one after the other go in as one; the first that finds no room is the last. -/
theorem takes_pieces (pieces : List Bytes) (h : disk.Holds owner content) :
    (∃ after, pieces.forM write disk = .ok () after ∧ Takes owner disk pieces.flatten after ∧
      ∀ room, disk.output.room = some room → pieces.flatten.length ≤ room) ∨
    (∃ room after, pieces.forM write disk = .error (.bare .noSpace) after ∧
      disk.output.room = some room ∧ room < pieces.flatten.length ∧
      Takes owner disk (pieces.flatten.take room) after) := by
  induction pieces generalizing disk content with
  | nil => exact .inl ⟨disk, rfl, .nil h, by simp⟩
  | cons piece pieces ih =>
    rw [Running.forM_cons]
    rcases takes_write h piece with ⟨between, written, takes, enough⟩ | ⟨room, after, written, limit,
      short, takes⟩ <;> rw [written]
    · obtain ⟨middle, holds⟩ := takes.holds
      rcases ih holds with ⟨after, rest, takes', enough'⟩ | ⟨room, after, rest, limit, short, takes'⟩
      · left
        refine ⟨after, rest, takes.trans takes', ?_⟩
        intro room limit
        have here := enough room limit
        have there := enough' (room - piece.length) (by rw [takes.room, limit]; rfl)
        rw [List.flatten_cons, List.length_append]
        omega
      · right
        rw [takes.room, Option.map_eq_some_iff] at limit
        obtain ⟨whole, limit, rfl⟩ := limit
        have here := enough whole limit
        refine ⟨whole, after, rest, limit, ?_, ?_⟩
        · rw [List.flatten_cons, List.length_append]
          omega
        · rw [List.flatten_cons, List.take_append, List.take_of_length_le here]
          exact takes.trans takes'
    · right
      refine ⟨room, after, rfl, limit, ?_, ?_⟩
      · rw [List.flatten_cons, List.length_append]
        omega
      · rw [List.flatten_cons, List.take_append_of_le_length (by omega)]
        exact takes

private theorem closeFails_accept (disk : Disk) (bytes : Bytes) :
    (disk.accept bytes).output.closeFails = disk.output.closeFails := by
  unfold accept
  simp only
  split
  · rfl
  · split <;> rfl

/-- What an output takes in that holds nothing back is in its file once it is flushed. -/
private theorem tree_flush_accept (nothing : disk.output.held = []) (bytes : Bytes) :
    (disk.accept bytes).flush.tree =
      disk.tree.store disk.output.file disk.output.position bytes := by
  have empty (tree : FileTree) (offset : Nat) : tree.store disk.output.file offset [] = tree := rfl
  unfold accept
  simp only [nothing, List.nil_append]
  split
  · rfl
  · split <;> simp [flush, hold, Disk.store, nothing, empty]

theorem fitting_eq (disk : Disk) {bytes : Bytes} (enough : ¬ (disk.fitting bytes).length < bytes.length) :
    disk.fitting bytes = bytes := by
  unfold fitting at enough ⊢
  split
  · rfl
  · rename_i room limit
    rw [limit] at enough
    simp only [List.length_take] at enough
    exact List.take_of_length_le (by omega)

/-- Writing bytes out to a file stores those there is room for. -/
theorem writeOut_eq (nothing : disk.output.held = []) (bytes : Bytes) :
    writeOut bytes disk =
      (disk.tree.store disk.output.file disk.output.position (disk.fitting bytes),
        if disk.output.closeFails then some (.bare .deviceFault)
        else if (disk.fitting bytes).length < bytes.length then some (.bare .noSpace) else none) := by
  let written := (disk.accept (disk.fitting bytes)).occupy (disk.fitting bytes).length
  have stored : written.flush.tree = _ := tree_flush_accept nothing (disk.fitting bytes)
  have fails : written.output.closeFails = _ := closeFails_accept disk (disk.fitting bytes)
  by_cases short : (disk.fitting bytes).length < bytes.length
  · have refused : write bytes disk = .error (.bare .noSpace) written := if_pos short
    simp only [writeOut, refused, close, stored, fails, if_pos short]
    cases disk.output.closeFails <;> rfl
  · have done : write bytes disk = .ok () written := if_neg short
    simp only [writeOut, done, close, stored, fails, if_neg short, Option.or_none]

/-- Closing stores what is held back: the file then holds all that was accepted. -/
theorem close_node (h : disk.Holds owner content) :
    disk.close.1.node? disk.output.file = some (archiveNode owner disk.accepted) := by
  rw [h.accepted_eq]
  exact h.flush.node

theorem close_sameBut (disk : Disk) : SameBut disk.output.file disk.tree disk.close.1 :=
  store_sameBut disk disk.output.held

end Disk

end ContainerLogs.Archive
