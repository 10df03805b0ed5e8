import ContainerLogs.Proofs.Archive.Delivery
import ContainerLogs.Proofs.Archive.Run

/-!
From appends to reads. The path of an archive leads to the file that its writer took over, which
holds the preamble and one record for each append; a reader that is opened there hands out these
records.
-/
namespace ContainerLogs

namespace FileTree

/-- A file stays as it is, and stays readable under its path. -/
def SameWay (path : String) (file : Nat) (before after : FileTree) : Prop :=
  SameNode file before after ∧
    (before.openForReading path = .ok file → after.openForReading path = .ok file)

theorem SameWay.refl (path : String) (file : Nat) (tree : FileTree) : SameWay path file tree tree :=
  ⟨rfl, id⟩

/-- New content leaves a file where it is and as readable as it was. -/
theorem openForReading_of_sameBut {before after : FileTree} {file owner mode : Nat}
    {old new : Bytes} (same : SameBut file before after)
    (here : before.node? file = some ⟨.file old, owner, mode⟩)
    (there : after.node? file = some ⟨.file new, owner, mode⟩) (path : String) :
    after.openForReading path = before.openForReading path := by
  have layout : SameLayout before after :=
    same.layout (by simp [here, Node.isFile]) (by simp [there, Node.isFile])
  have rights (number : Nat) : after.permits number .read = before.permits number .read := by
    by_cases own : number = file
    · subst own
      simp [permits, here, there, same.user, Node.permits]
    · simp [permits, same.node?_eq number own, same.user]
  have node : after.openNode path = before.openNode path := by
    simp only [openNode, layout.resolve_eq, rights]
  unfold openForReading
  rw [node]
  cases before.openNode path with
  | error refusal => rfl
  | ok number =>
    by_cases own : number = file
    · subst own
      simp [bind, Except.bind, here, there]
    · simp [bind, Except.bind, same.node?_eq number own]

end FileTree

namespace Archive

open FileTree (SameBut SameNode SameWay)
open Running

theorem Key.bytes_eq_ok {key : Key} {bytes : Bytes} (good : key.bytes = .ok bytes) :
    ∃ name, key = ⟨some name⟩ ∧ isReserved name = false ∧ bytes = Text.Utf8.encode name := by
  obtain ⟨_ | name⟩ := key
  · cases good
  · unfold Key.bytes at good
    simp only at good
    split at good
    · cases good
    · rename_i plain
      cases good
      exact ⟨name, rfl, by simpa using plain, rfl⟩

namespace Session

variable {process : Process} {conditions : Conditions} {path : Path} {identity : String}
  {trace made : Trace} {writer : Writer}

/-- The mode of an archive lets its owner read it. -/
private theorem permits_archive {tree : FileTree} {file : Nat} {content : Bytes}
    (h : tree.node? file = some (archiveNode tree.user content)) : tree.permits file .read = true := by
  have readable : (fileMode / 64).testBit Right.read.bit = true := by decide
  simpa [FileTree.permits, h, archiveNode, Node.permits] using readable

theorem openForReading_of_beside {before after : Session} {file owner : Nat} {old new : Bytes}
    (beside : Beside file before after) (h : before.Keeps file owner old)
    (h' : after.Keeps file owner new) (path : String) :
    after.tree.openForReading path = before.tree.openForReading path := by
  obtain ⟨_, here⟩ := h.node
  obtain ⟨_, there⟩ := h'.node
  exact FileTree.openForReading_of_sameBut beside.frame here there path

/-- The path of an archive that was opened leads to its file. -/
theorem openForReading_of_start
    (started : start process conditions path identity trace = .ok writer made) :
    ∃ file owner output, writer.output = some output ∧ output.file = file ∧
      (∀ record ∈ preamble identity, Fits record.1 record.2) ∧
      Keeps ⟨made.tree, writer, made.journal⟩ file owner (recordsBytes (preamble identity)) ∧
      made.tree.openForReading path.text = .ok file := by
  obtain ⟨file, opened, taken, output, opening, takingOver, outputEq, sameFile, -, frame, fits,
    keeps⟩ := start_eq_ok started
  refine ⟨file, opened.user, output, outputEq, sameFile, fits, keeps, ?_⟩
  obtain ⟨same, node, -⟩ := takeOver_eq_none takingOver
  have leads := resolve_of_takeOver opening takingOver (.refl _ _) node
  have readable : taken.openForReading path.text = .ok file := by
    have rights := permits_archive (same.user ▸ node)
    simp [FileTree.openForReading, FileTree.openNode, leads, rights, bind, Except.bind, node,
      archiveNode]
  obtain ⟨_, there⟩ := keeps.node
  rw [FileTree.openForReading_of_sameBut frame node there]
  exact readable

theorem contentAt_of_keeps {session : Session} {file owner : Nat} {bytes : Bytes} {path : String}
    (closed : session.writer.output = none) (h : session.Keeps file owner bytes)
    (leads : session.tree.openForReading path = .ok file) :
    session.tree.contentAt path = .ok bytes := by
  have stored := h.archived_eq
  rw [archived, closed] at stored
  simp [FileTree.contentAt, leads, bind, Except.bind, stored]

end Session

open Session

/-- The records that appends add, each with what it collected. -/
def appended (requests : List Append) (collections : List Collection) : List (Key × Bytes) :=
  List.zipWith (fun request collection => (request.key, collection.value)) requests collections

/-- An append that succeeds adds its record and leaves the way to the archive. -/
private theorem append_keeps {request : Append} {session after : Session} {path : String}
    {file owner : Nat} {bytes : Bytes} {output : Output} {collection : Collection}
    (opened : session.writer.output = some output) (h : session.Keeps file owner bytes)
    (leads : session.tree.openForReading path = .ok file)
    (spared : request.Spares (SameWay path file) session)
    (done : request.perform session = .ok collection after) :
    ∃ name, request.key = ⟨some name⟩ ∧ isReserved name = false ∧
      Fits (Text.Utf8.encode name) collection.value ∧
      (∃ next, after.writer.output = some next) ∧
      after.Keeps file owner (bytes ++ recordBytes (Text.Utf8.encode name) collection.value) ∧
      after.tree.openForReading path = .ok file := by
  obtain ⟨sameNode, way⟩ := spared
  have ended := Append.ends opened h sameNode
  rw [done] at ended
  cases ended with
  | written good gathered fit enough opened' beside keeps =>
    obtain ⟨name, sameKey, plain, rfl⟩ := Key.bytes_eq_ok good
    have before := h.of_spared (writer_of_collect session) sameNode
    refine ⟨name, sameKey, plain, fit, ⟨_, opened'⟩, keeps, ?_⟩
    rw [openForReading_of_beside beside before keeps]
    exact way leads

/-- Appends that all succeed leave their records, in order, and the way to the archive. -/
theorem appends_keep {requests : List Append} {session finished : Session} {path : String}
    {file owner : Nat} {bytes : Bytes} {output : Output} {collections : List Collection}
    (opened : session.writer.output = some output) (h : session.Keeps file owner bytes)
    (leads : session.tree.openForReading path = .ok file)
    (undisturbed : Call.Undisturbed (SameWay path file) (requests.map .append) session)
    (done : requests.mapM Append.perform session = .ok collections finished) :
    ∃ written, Ordinary written ∧ Reader.keyed written = appended requests collections ∧
      (∃ next, finished.writer.output = some next) ∧
      finished.Keeps file owner (bytes ++ recordsBytes (named written)) ∧
      finished.tree.openForReading path = .ok file := by
  induction requests generalizing session output bytes collections with
  | nil =>
    cases done
    exact ⟨[], by simp [Ordinary], rfl, ⟨output, opened⟩, by simpa [named] using h, leads⟩
  | cons request requests ih =>
    obtain ⟨spared, undisturbed⟩ := undisturbed
    rw [List.mapM_cons] at done
    cases performed : request.perform session with
    | error fault after =>
      rw [bind_of_error performed] at done
      cases done
    | ok collection after =>
      rw [bind_of_ok performed] at done
      cases others : requests.mapM Append.perform after with
      | error fault broken =>
        rw [bind_of_error others] at done
        cases done
      | ok collections' finished' =>
        rw [bind_of_ok others] at done
        cases done
        obtain ⟨name, sameKey, plain, fit, ⟨next, opened'⟩, keeps, leads'⟩ :=
          append_keeps opened h leads spared performed
        have reached : (Call.append request).after session = after := by
          rw [Call.after, performed]
          rfl
        rw [reached] at undisturbed
        obtain ⟨written, ordinary, same, opened'', keeps', leads''⟩ :=
          ih opened' keeps leads' undisturbed others
        refine ⟨(name, collection.value) :: written, ?_, ?_, opened'', ?_, leads''⟩
        · exact List.forall_mem_cons.2 ⟨⟨plain, fit⟩, ordinary⟩
        · rw [appended, List.zipWith_cons_cons, sameKey, ← appended, ← same]
          rfl
        · simpa [named] using keeps'

/-- What is read back at a path: an archive with an owner, which hands out records. -/
def ReadsBack (tree : FileTree) (path identity : String) (records : List (Key × Bytes)) : Prop :=
  ∃ bytes reader, tree.contentAt path = .ok bytes ∧ Reader.ofBytes path bytes = .ok reader ∧
    reader.version = some formatVersion ∧ reader.owner = some identity ∧
    Reader.Delivers records reader ∧
    ∀ count, (Reader.listRecords count reader).1.map (·.1) = (records.take count).map (·.1) ∧
      (Reader.listRecords count reader).2.1 = none

/-- What was appended is read back, whatever stood at the path of the archive before. -/
theorem readsBack_of_appends {process : Process} {conditions : Conditions} {path : Path}
    {identity : String} {trace made : Trace} {writer : Writer}
    (started : start process conditions path identity trace = .ok writer made) :
    ∃ output, writer.output = some output ∧ ∀ requests collections finished closed,
      Call.Undisturbed (SameWay path.text output.file) (requests.map .append)
        ⟨made.tree, writer, made.journal⟩ →
      requests.mapM Append.perform ⟨made.tree, writer, made.journal⟩ = .ok collections finished →
      Session.close finished = .ok () closed →
      ReadsBack closed.tree path.text identity (appended requests collections) := by
  obtain ⟨_, owner, output, opened, rfl, fits, keeps, leads⟩ := openForReading_of_start started
  refine ⟨output, opened, fun requests collections finished closed undisturbed done closing => ?_⟩
  obtain ⟨written, ordinary, same, ⟨next, opened'⟩, keeps', leads'⟩ :=
    appends_keep opened keeps leads undisturbed done
  obtain ⟨ended, beside, keeps''⟩ := close_of_open opened' keeps'
  rw [closing] at ended beside keeps''
  have leads'' : closed.tree.openForReading path.text = .ok output.file :=
    (openForReading_of_beside beside keeps' keeps'' path.text).trans leads'
  obtain ⟨reader, read, version, readOwner, between⟩ :=
    Reader.ofBytes_of_preamble path.text fits ordinary
  rw [recordsBytes_append] at read
  rw [← same]
  exact ⟨_, reader, contentAt_of_keeps ended keeps'' leads'', read, version, readOwner,
    Reader.delivers_of_stands (.inl between) ordinary,
    Reader.listRecords_of_stands (.inl between) ordinary⟩

/-- A tree with one log file of one container. -/
def logTree : FileTree where
  nodes := [
    ⟨.directory [("work", 1), ("logs", 2)] 0, 0, 0o755⟩,
    ⟨.directory [] 0, 0, 0o755⟩,
    ⟨.directory [("application_1_0002", 3)] 0, 0, 0o755⟩,
    ⟨.directory [("container_1_0002_03_000004", 4)] 2, 0, 0o755⟩,
    ⟨.directory [("stdout", 5)] 3, 0, 0o755⟩,
    ⟨.file [104, 105], 0, 0o644⟩]
  base := 1

/-- Whether an archive is opened, appended to and closed, and what was collected passes a check. -/
def passes (tree : FileTree) (requests : List Append)
    (check : Writer → Trace → List Collection → Bool) : Bool :=
  match start {} {} ⟨"", ["a.log"]⟩ "app" { tree := tree } with
  | .error .. => false
  | .ok writer made =>
      match requests.mapM Append.perform ⟨made.tree, writer, made.journal⟩ with
      | .error .. => false
      | .ok collections finished =>
          match Session.close finished with
          | .error .. => false
          | .ok .. => check writer made collections

theorem exists_of_passes {tree : FileTree} {requests : List Append}
    {check : Writer → Trace → List Collection → Bool} (h : passes tree requests check = true) :
    ∃ writer made collections finished closed,
      start {} {} ⟨"", ["a.log"]⟩ "app" { tree := tree } = .ok writer made ∧
      requests.mapM Append.perform ⟨made.tree, writer, made.journal⟩ = .ok collections finished ∧
      Session.close finished = .ok () closed ∧ check writer made collections = true := by
  unfold passes at h
  split at h
  · cases h
  · rename_i writer made started
    split at h
    · cases h
    · rename_i collections finished done
      split at h
      · cases h
      · rename_i closed closing
        exact ⟨writer, made, collections, finished, closed, started, done, closing, h⟩

private theorem appends_in_logTree : ∃ writer made collections finished closed,
    start {} {} ⟨"", ["a.log"]⟩ "app" { tree := logTree } = .ok writer made ∧
    [appendNamed "c", appendNamed ""].mapM Append.perform ⟨made.tree, writer, made.journal⟩ =
      .ok collections finished ∧
    Session.close finished = .ok () closed ∧
    ∀ collection ∈ collections, collection.items = [.entry "stdout" [104, 105]] := by
  have succeeds : passes logTree [appendNamed "c", appendNamed ""] (fun _ _ collections =>
      decide (∀ collection ∈ collections, collection.items = [.entry "stdout" [104, 105]])) =
      true := by
    simp only [passes, start, openFile]
    rw [FileTree.makeDirectories]
    decide +kernel
  simpa only [decide_eq_true_eq] using exists_of_passes succeeds

/-- Two records of one log file, under a key and under an empty one. -/
theorem readsBack_in_logTree : ∃ writer made collections finished closed,
    start {} {} ⟨"", ["a.log"]⟩ "app" { tree := logTree } = .ok writer made ∧
    [appendNamed "c", appendNamed ""].mapM Append.perform ⟨made.tree, writer, made.journal⟩ =
      .ok collections finished ∧
    Session.close finished = .ok () closed ∧
    (∀ collection ∈ collections, collection.items = [.entry "stdout" [104, 105]]) ∧
    ReadsBack closed.tree "a.log" "app" (appended [appendNamed "c", appendNamed ""] collections) := by
  obtain ⟨writer, made, collections, finished, closed, started, done, closing, entries⟩ :=
    appends_in_logTree
  obtain ⟨output, -, back⟩ := readsBack_of_appends started
  have undisturbed : Call.Undisturbed (SameWay "a.log" output.file)
      ([appendNamed "c", appendNamed ""].map .append) ⟨made.tree, writer, made.journal⟩ := by
    refine Call.undisturbed_of_calm (.refl _ _) _ ?_
    intro request among
    simp only [List.map_cons, List.map_nil, List.mem_cons, Call.append.injEq, List.not_mem_nil,
      or_false] at among
    rcases among with rfl | rfl <;> exact .quiet
  exact ⟨writer, made, collections, finished, closed, started, done, closing, entries,
    back _ _ _ _ undisturbed done closing⟩

end Archive

end ContainerLogs
