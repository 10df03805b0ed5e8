import ContainerLogs.Proofs.Archive.Permission
import ContainerLogs.Proofs.FileTree.Directories

/-!
Under which modes the directories of an archive are made. The directory that the archive stands in is
made under the mode for directories of archives; ancestors that are missing as well are made with all
permission bits that the process does not withhold, and are open to others if it withholds too few.
-/
namespace ContainerLogs.Archive.Session

open FileTree (Gains NoDirectory RightOnWay SameBut)

variable {session : Session} {file owner : Nat} {bytes : Bytes} {output : Output}
  {process : Process} {conditions : Conditions} {path : Path} {identity : String} {trace : Trace}

/-- Whatever becomes of a record, only the file of the archive is touched, and it stays one. -/
private theorem writeRecord_beside (opened : session.writer.output = some output)
    (h : session.Keeps file owner bytes) (key value : Bytes) :
    SameBut file session.tree (left (writeRecord key value session)).tree ∧
      ∃ content, (left (writeRecord key value session)).tree.node? file =
        some (archiveNode owner content) := by
  by_cases fit : Fits key value
  · cases written : writeRecord key value session with
    | ok _ after =>
      obtain ⟨-, -, beside, keeps⟩ := writeRecord_eq_ok opened h written
      exact ⟨beside.frame, keeps.node⟩
    | error fault after =>
      rcases writeRecord_eq_error opened h written with ⟨-, unfit⟩ | ⟨-, -, beside, _, -, -, there⟩
      · exact absurd fit unfit
      · exact ⟨beside.frame, _, there⟩
  · obtain ⟨fault, refused⟩ := writeRecord_of_unfit opened fit
    rw [refused]
    exact ⟨.refl _ _, h.node⟩

private theorem writeRecords_beside (records : List (Bytes × Bytes))
    (opened : session.writer.output = some output) (h : session.Keeps file owner bytes) :
    let after := left ((records.forM fun (key, value) => writeRecord key value) session)
    SameBut file session.tree after.tree ∧
      ∃ content, after.tree.node? file = some (archiveNode owner content) := by
  induction records generalizing session output bytes with
  | nil => exact ⟨.refl _ _, h.node⟩
  | cons record records ih =>
    obtain ⟨key, value⟩ := record
    obtain ⟨frame, there⟩ := writeRecord_beside opened h key value
    rw [Running.forM_cons]
    simp only
    cases first : writeRecord key value session with
    | error fault between =>
      rw [first] at frame there
      exact ⟨frame, there⟩
    | ok _ between =>
      rw [first] at frame
      obtain ⟨-, ⟨next, opened'⟩, -, keeps⟩ := writeRecord_eq_ok opened h first
      obtain ⟨frame', there'⟩ := ih opened' keeps
      exact ⟨frame.trans frame', there'⟩

private theorem noDirectory_of_archiveNode {tree : FileTree} {content : Bytes}
    (there : tree.node? file = some (archiveNode owner content)) : tree.NoDirectory file := by
  intro node found
  rw [there] at found
  cases found
  rfl

/-- Opening the file of an archive makes the directories on the way to it and no others, and opens no
directory. -/
private theorem openFile_gains (process : Process) (path : Path) (tree : FileTree) :
    Gains (RightOnWay process path.parent directoryMode) tree (openFile process path tree).1 ∧
      ∀ file, (openFile process path tree).2 = .ok file →
        (openFile process path tree).1.NoDirectory file := by
  have made := tree.makeDirectories_gains process path.parent directoryMode
  unfold openFile
  rcases directories : tree.makeDirectories process path.parent directoryMode with
    ⟨between, _ | stopped⟩
  · rw [directories] at made
    simp only
    cases opened : between.openForWriting process path.text fileMode with
    | error refusal => exact ⟨made, nofun⟩
    | ok result =>
      obtain ⟨after, number⟩ := result
      obtain ⟨gains, noDirectory⟩ := FileTree.openForWriting_gains opened
      refine ⟨made.trans gains, ?_⟩
      rintro _ ⟨⟩
      exact noDirectory
  · rw [directories] at made
    exact ⟨made, nofun⟩

/-- Taking over a file, as far as it goes, makes no directory of it. -/
private theorem takeOver_sameBut (conditions : Conditions) (path : String) {tree : FileTree}
    (noDirectory : tree.NoDirectory file) :
    SameBut file tree (takeOver conditions path file tree).1 ∧
      (takeOver conditions path file tree).1.NoDirectory file := by
  rcases takingOver : takeOver conditions path file tree with ⟨taken, _ | fault⟩
  · obtain ⟨same, there, -⟩ := takeOver_eq_none takingOver
    exact ⟨same, noDirectory_of_archiveNode there⟩
  unfold takeOver at takingOver
  split at takingOver
  · cases takingOver
    exact ⟨.refl _ _, noDirectory⟩
  · rename_i moded changed
    obtain ⟨rfl, node, found, -⟩ := FileTree.changeOpenMode_eq_ok (attempted_eq_ok changed)
    have remoded := FileTree.node?_setMode fileMode found
    split at takingOver
    · cases takingOver
      refine ⟨.update _ _ _, fun node' found' => ?_⟩
      rw [remoded] at found'
      cases found'
      exact noDirectory node found
    · cases takingOver

/-- What is done to the file once it is open, as far as it goes, changes no directory. -/
private theorem directory_iff_of_start (process : Process) (conditions : Conditions) (path : Path)
    (identity : String) (trace : Trace) {number : Nat} {node : Node}
    (isDirectory : node.isDirectory = true) :
    (treeAfter (start process conditions path identity trace)).node? number = some node ↔
      (openFile process path trace.tree).1.node? number = some node := by
  have noDirectory := (openFile_gains process path trace.tree).2
  rcases opening : openFile process path trace.tree with ⟨opened, refusal | file⟩
  · simp only [start, opening]
    rfl
  rw [opening] at noDirectory
  replace noDirectory : opened.NoDirectory file := noDirectory file rfl
  obtain ⟨same, noDirectory'⟩ := takeOver_sameBut conditions path.text noDirectory
  rcases takingOver : takeOver conditions path.text file opened with ⟨taken, _ | fault⟩
  · rw [takingOver] at same
    have kept : (begun conditions path identity file trace taken).Keeps file opened.user [] :=
      begun_keeps takingOver
    obtain ⟨frame, content, there⟩ := writeRecords_beside (preamble identity) rfl kept
    rw [treeAfter_of_begun opening takingOver, leaving_eq]
    exact (same.trans frame).directory_iff noDirectory (noDirectory_of_archiveNode there) isDirectory
  · rw [takingOver] at same noDirectory'
    simp only [start, opening, takingOver]
    exact same.directory_iff noDirectory noDirectory' isDirectory

/-- Each directory that opening an archive makes, done or not, is on the way to the archive. The one
that the archive stands in has no permission bit outside the mode for directories of archives; those
above it have none only if the process withholds the others. -/
theorem directories_of_start (process : Process) (conditions : Conditions) (path : Path)
    (identity : String) (trace : Trace) {number : Nat} {node : Node}
    (new : trace.tree.node? number = none)
    (there : (treeAfter (start process conditions path identity trace)).node? number = some node)
    (isDirectory : node.isDirectory = true) : ∃ above : Path,
      above.anchor = path.anchor ∧ above.parts <+: path.parent.parts ∧
      (openFile process path trace.tree).1.resolve above.text = .ok number ∧
      process.Gives (if above = path.parent then directoryMode else 0o777) node.mode ∧
      (Within directoryMode node.mode ↔ above = path.parent ∨
        ∀ bit < 9, directoryMode.testBit bit = false → process.umask.testBit bit = true) := by
  rw [directory_iff_of_start process conditions path identity trace isDirectory] at there
  obtain ⟨kind, owner, mode⟩ := node
  cases kind with
  | file | symlink | fifo => cases isDirectory
  | directory entries parent =>
    rcases (openFile_gains process path trace.tree).1.made there with ⟨_, old⟩ | ⟨above,
      ⟨anchor, parts, gives⟩, resolved⟩
    · rw [new] at old
      cases old
    · refine ⟨above, anchor, parts, resolved, gives, ?_⟩
      by_cases last : above = path.parent
      · rw [if_pos last] at gives
        rw [gives.within_iff]
        exact iff_of_true (fun _ _ asked => .inr asked) (.inl last)
      · rw [if_neg last] at gives
        rw [gives.within_iff_of_all, or_iff_right last]

/-- A path with two directories that are missing in the empty tree. -/
def twoDeep : Path := ⟨"", ["a", "b", "c.log"]⟩

private theorem nodes_of_openFile_twoDeep :
    let tree := (openFile {} twoDeep .empty).1
    tree.node? 2 = some ⟨.directory [("b", 3)] 1, 0, 0o755⟩ ∧
      tree.node? 3 = some ⟨.directory [("c.log", 4)] 2, 0, 0o750⟩ := by
  simp only [openFile]
  rw [FileTree.makeDirectories, FileTree.makeDirectories]
  decide +kernel

private theorem start_twoDeep : ∃ writer made,
    start {} {} twoDeep "app" { tree := .empty } = .ok writer made := by
  apply exists_of_succeeds
  simp only [start, openFile]
  rw [FileTree.makeDirectories, FileTree.makeDirectories]
  decide +kernel

theorem directories_of_start_twoDeep : ∃ above : Path, above.parts <+: ["a", "b"] ∧
    (openFile {} twoDeep .empty).1.resolve above.text = .ok 3 ∧
    Process.Gives {} (if above = twoDeep.parent then directoryMode else 0o777) 0o750 := by
  have there := (directory_iff_of_start {} {} twoDeep "app" { tree := .empty } rfl).2
    nodes_of_openFile_twoDeep.2
  obtain ⟨above, -, parts, resolved, gives, -⟩ :=
    directories_of_start {} {} twoDeep "app" { tree := .empty } (by decide) there rfl
  exact ⟨above, parts, resolved, gives⟩

/-- The upper one of the two directories is open to others. -/
theorem open_directory_of_twoDeep : ∃ writer made,
    start {} {} twoDeep "app" { tree := .empty } = .ok writer made ∧
    FileTree.empty.node? 2 = none ∧
    made.tree.node? 2 = some ⟨.directory [("b", 3)] 1, 0, 0o755⟩ ∧
    ¬ Within directoryMode 0o755 := by
  obtain ⟨writer, made, started⟩ := start_twoDeep
  have there := (directory_iff_of_start {} {} twoDeep "app" { tree := .empty } rfl).2
    nodes_of_openFile_twoDeep.1
  rw [started] at there
  exact ⟨writer, made, started, by decide, there, by decide⟩

end ContainerLogs.Archive.Session
