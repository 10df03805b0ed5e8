import ContainerLogs.Proofs.Archive.Dumping
import ContainerLogs.Proofs.Archive.RoundTrip
import ContainerLogs.Proofs.Collection.Apart
import Mathlib.Data.List.Forall2

/-!
From files to text. An archive that was written while nobody else changed files, and that is none of
the files collected, is shown as what its collections came upon: container by container, file by
file, in the order of the collections.
-/
namespace ContainerLogs

namespace Collector

/-- What is shown of a listed file: its content under a heading, or the diagnostic in its place. -/
def Visit.text (visit : Visit) : String :=
  match visit.fate with
  | .included content =>
      "\n\nLogType:" ++ visit.name ++ "\nLogLength:" ++ Text.decimal content.length ++
        "\nLog Contents:\n" ++ Text.Utf8.decodeLenient content
  | .mismatch found => "\n" ++ ("Owner '" ++ found.actual ++ "' for path '" ++ found.path ++
      "' did not match expected owner '" ++ found.expected ++ "'") ++ "\n"
  | .unopened _ | .unread _ => ""

private theorem Visit.text_eq (visit : Visit) :
    visit.text = String.join (visit.items.map Archive.Item.text) := by
  obtain ⟨directory, name, expected, fate⟩ := visit
  cases fate <;> simp only [Visit.text, Visit.items, List.map_cons, List.map_nil, String.join_cons,
    String.join_nil, String.append_empty] <;> rfl

private theorem text_of_stops (stops : List Stop) :
    String.join ((stops.flatMap Stop.items).map Archive.Item.text) =
      String.join ((stops.flatMap Stop.visits).map Visit.text) := by
  have visited (visits : List Visit) :
      String.join ((visits.flatMap Visit.items).map Archive.Item.text) =
        String.join (visits.map Visit.text) := by
    induction visits with
    | nil => rfl
    | cons visit visits ih =>
      rw [List.flatMap_cons, List.map_append, String.join_append, ih, List.map_cons,
        String.join_cons, Visit.text_eq]
  rw [← visited, List.flatMap_assoc]
  rfl

end Collector

namespace Archive

open Collector (Survey Stop Visit Apart)
open FileTree (SameBut)
open Running
open Session (Fits)

/-- The text of an append: a line with the id of its container, a rule as long as that line, what is
shown of each file that its collection comes upon in a tree, and a line end. -/
def Shows (tree : FileTree) (request : Append) (text : String) : Prop :=
  ∃ id stops around, request.key = ⟨some id⟩ ∧
    Survey request.host request.schedule request.collector request.queries { tree := tree }
      request.collector.roots stops none around ∧
    text = "Container: " ++ id ++ "\n" ++ String.ofList (List.replicate (11 + id.length) '=') ++ "\n" ++
      String.join ((stops.flatMap Stop.visits).map Visit.text) ++ "\n"

/-- What is shown is told by the items of the collection. -/
private theorem Shows.text_eq {tree : FileTree} {request : Append} {text : String}
    (h : Shows tree request text) {collection : Collection}
    (made : request.collector.produce request.host request.schedule tree request.queries =
      .ok () collection) :
    ∃ id, request.key = ⟨some id⟩ ∧ text = shownRecord id collection.items := by
  obtain ⟨id, stops, around, named, survey, rfl⟩ := h
  obtain ⟨surveyed, produced, -, items⟩ := Collector.produce_of_survey survey
  rw [made] at produced
  cases produced
  refine ⟨id, named, ?_⟩
  rw [shownRecord, recordText, headText, items, Collector.text_of_stops]

/-- While an archive is written and nobody else changes files, the tree differs from what it was in
the archive only. -/
structure Aside (tree : FileTree) (file owner : Nat) (bytes : Bytes) (session : Session) : Prop where
  isOpen : ∃ output, session.writer.output = some output
  frame : SameBut file tree session.tree
  keeps : session.Keeps file owner bytes

private theorem Aside.alike {tree : FileTree} {file owner : Nat} {old bytes : Bytes}
    {session : Session} (h : Aside tree file owner bytes session)
    (here : tree.node? file = some (archiveNode owner old)) :
    FileTree.AlikeBut (· = file) tree session.tree := by
  obtain ⟨new, there⟩ := h.keeps.node
  refine ⟨h.frame.base, h.frame.user, ?_, fun number => ?_⟩
  · exact h.frame.length_eq here there
  · by_cases own : number = file
    · subst own
      exact .inr ⟨rfl, old, new, owner, fileMode, here, there⟩
    · exact .inl (h.frame.node?_eq number own)

/-- An append adds a record that shows what there is to collect. -/
private theorem append_shows {tree : FileTree} {file owner : Nat} {old bytes : Bytes}
    {session after : Session} {request : Append} {collection : Collection}
    (h : Aside tree file owner bytes session)
    (here : tree.node? file = some (archiveNode owner old)) (calm : request.schedule.Calm)
    (apart : Apart tree file request.collector)
    (done : request.perform session = .ok collection after) :
    ∃ name, isReserved name = false ∧ Fits (Text.Utf8.encode name) collection.value ∧
      (∀ item ∈ collection.items, item.Fits) ∧
      Shows tree request (shownRecord name collection.items) ∧
      Aside tree file owner (bytes ++ recordBytes (Text.Utf8.encode name) collection.value) after := by
  obtain ⟨output, opened⟩ := h.isOpen
  have untouched := Append.tree_of_calm calm session
  have spared : request.Spares (FileTree.SameNode file) session := by
    unfold Append.Spares
    rw [untouched]
    exact .refl file session.tree
  have ended := Append.ends opened h.keeps spared
  rw [done] at ended
  cases ended with
  | written good gathered fit enough opened' beside keeps =>
    obtain ⟨name, sameKey, plain, rfl⟩ := Key.bytes_eq_ok good
    obtain ⟨collected, made⟩ := Append.collect_of_perform opened good done
    obtain ⟨stops, around, survey, items⟩ :=
      Collector.produce_apart calm apart (h.alike here) (Session.produce_of_collect made)
    have frame := beside.frame
    rw [untouched] at frame
    refine ⟨name, plain, fit, ?_, ⟨name, stops, around, sameKey, survey, ?_⟩, ⟨_, opened'⟩,
      h.frame.trans frame, keeps⟩
    · have fits := Collector.fits_of_produce request.collector request.host request.schedule
        session.tree request.queries
      rw [Session.produce_of_collect made] at fits
      exact fits
    · rw [shownRecord, items, Collector.text_of_stops, recordText, headText]

/-- Appends add records that show what there is to collect, one after the other. -/
private theorem appends_show {tree : FileTree} {file owner : Nat} {old bytes : Bytes}
    {session finished : Session} {requests : List Append} {collections : List Collection}
    (h : Aside tree file owner bytes session)
    (here : tree.node? file = some (archiveNode owner old))
    (calm : ∀ request ∈ requests, request.schedule.Calm)
    (apart : ∀ request ∈ requests, Apart tree file request.collector)
    (done : requests.mapM Append.perform session = .ok collections finished) :
    ∃ records, Ordinary (valued records) ∧ (∀ record ∈ records, ∀ item ∈ record.2, item.Fits) ∧
      List.Forall₂ (Shows tree) requests
        (records.map fun (name, items) => shownRecord name items) ∧
      Aside tree file owner (bytes ++ recordsBytes (named (valued records))) finished := by
  induction requests generalizing session bytes collections with
  | nil =>
    cases done
    exact ⟨[], nofun, nofun, .nil, by simpa [valued, named] using h⟩
  | cons request requests ih =>
    obtain ⟨firstCalm, othersCalm⟩ := List.forall_mem_cons.1 calm
    obtain ⟨firstApart, othersApart⟩ := List.forall_mem_cons.1 apart
    rw [List.mapM_cons] at done
    cases performed : request.perform session with
    | error fault after =>
      rw [bind_of_error performed] at done
      cases done
    | ok collection after =>
      rw [bind_of_ok performed] at done
      cases others : requests.mapM Append.perform after with
      | error fault broken =>
        rw [bind_of_error others] at done
        cases done
      | ok collections' finished' =>
        rw [bind_of_ok others] at done
        cases done
        obtain ⟨name, plain, fit, itemsFit, shows, next⟩ :=
          append_shows h here firstCalm firstApart performed
        obtain ⟨records, ordinary, fits, texts, last⟩ :=
          ih next othersCalm othersApart others
        refine ⟨(name, collection.items) :: records, ?_, ?_, .cons shows texts, ?_⟩
        · exact List.forall_mem_cons.2 ⟨⟨plain, fit⟩, ordinary⟩
        · exact List.forall_mem_cons.2 ⟨itemsFit, fits⟩
        · rw [List.append_assoc] at last
          exact last

/-- The archive at a path is opened, and shown without a fault as the given number of records and as
the given text. -/
def ShownAs (tree : FileTree) (path : String) (count : Nat) (text : String) : Prop :=
  ∃ bytes reader, tree.contentAt path = .ok bytes ∧ Reader.ofBytes path bytes = .ok reader ∧
    (reader.dump none).fault = none ∧ (reader.dump none).count = count ∧
    (reader.dump none).out = text

open Session in
/-- Whatever files there are, what was appended of them is shown: container by container and file by
file, in the tree as it was when the archive had been opened. No other file may change meanwhile, and the
archive must be none of the files listed. -/
theorem shown_of_appends {process : Process} {conditions : Conditions} {path : Path}
    {identity : String} {trace made : Trace} {writer : Writer}
    (started : start process conditions path identity trace = .ok writer made) :
    ∃ output, writer.output = some output ∧ ∀ requests collections finished closed,
      (∀ request ∈ requests, request.schedule.Calm) →
      (∀ request ∈ requests, Apart made.tree output.file request.collector) →
      requests.mapM Append.perform ⟨made.tree, writer, made.journal⟩ = .ok collections finished →
      Session.close finished = .ok () closed →
      ∃ texts, List.Forall₂ (Shows made.tree) requests texts ∧
        ShownAs closed.tree path.text requests.length (String.join texts) := by
  obtain ⟨_, owner, output, opened, rfl, fits, keeps, leads⟩ := openForReading_of_start started
  refine ⟨output, opened, fun requests collections finished closed calm apart done closing => ?_⟩
  obtain ⟨_, here⟩ := keeps.node
  have begun : Aside made.tree output.file owner (recordsBytes (preamble identity))
      ⟨made.tree, writer, made.journal⟩ := ⟨⟨output, opened⟩, .refl _ _, keeps⟩
  obtain ⟨records, ordinary, itemsFit, texts, ⟨next, opened'⟩, frame, keeps'⟩ :=
    appends_show begun here calm apart done
  obtain ⟨ended, beside, keeps''⟩ := close_of_open opened' keeps'
  rw [closing] at ended beside keeps''
  obtain ⟨_, there⟩ := keeps''.node
  have leads' : closed.tree.openForReading path.text = .ok output.file :=
    (FileTree.openForReading_of_sameBut (frame.trans beside.frame) here there path.text).trans leads
  obtain ⟨reader, read, -, -, between⟩ := Reader.ofBytes_of_preamble path.text fits ordinary
  obtain ⟨fault, count, out⟩ := Reader.dump_of_between between ordinary itemsFit
  have lengths : requests.length = records.length := by simpa using texts.length_eq
  refine ⟨_, texts, _, reader, contentAt_of_keeps ended keeps'' leads', ?_, fault, ?_, out⟩
  · rw [← recordsBytes_append]
    exact read
  · rw [count, lengths]

/-- An append that expects somebody else's log files. -/
def appendForeign (name : String) : Append :=
  { appendNamed name with collector := { (appendNamed name).collector with owner := .fixed "nobody" } }

def ownAndForeign : List Append := [appendNamed "c", appendForeign "d"]

/-- What an append collects from a tree. -/
def Append.items? (tree : FileTree) (request : Append) : Option (List Item) :=
  match request.collector.produce request.host request.schedule tree request.queries with
  | .ok () collection => some collection.items
  | .error .. => none

private theorem Shows.eq_of_items? {tree : FileTree} {request : Append} {text id : String}
    {items : List Item} (h : Shows tree request text) (named : request.key = ⟨some id⟩)
    (collected : request.items? tree = some items) : text = shownRecord id items := by
  unfold Append.items? at collected
  split at collected
  · rename_i made
    cases collected
    obtain ⟨id', named', rfl⟩ := h.text_eq made
    cases named.symm.trans named'
    rfl
  · cases collected

def collectedItems : List (List Item) := [
  [.entry "stdout" [104, 105]],
  [.diagnostic ("Owner 'root' for path '/logs/application_1_0002/container_1_0002_03_000004/stdout' " ++
    "did not match expected owner 'nobody'")]]

open Session in
private theorem appends_own_and_foreign : ∃ writer made collections finished closed,
    start {} {} ⟨"", ["a.log"]⟩ "app" { tree := logTree } = .ok writer made ∧
    ownAndForeign.mapM Append.perform ⟨made.tree, writer, made.journal⟩ =
      .ok collections finished ∧
    Session.close finished = .ok () closed ∧
    ownAndForeign.map (Append.items? made.tree) = collectedItems.map some ∧
    ∀ output, writer.output = some output →
      ∀ request ∈ ownAndForeign, Apart made.tree output.file request.collector := by
  have succeeds : passes logTree ownAndForeign (fun writer made _ =>
      decide (ownAndForeign.map (Append.items? made.tree) = collectedItems.map some ∧
        ∀ output ∈ writer.output, ∀ request ∈ ownAndForeign,
          Apart made.tree output.file request.collector)) = true := by
    simp only [passes, start, openFile]
    rw [FileTree.makeDirectories]
    decide +kernel
  simpa only [decide_eq_true_eq, Option.mem_def] using exists_of_passes succeeds

/-- Two records are shown, one with a content and one with a diagnostic. -/
theorem shown_own_and_foreign : ∃ writer made collections finished closed texts,
    Session.start {} {} ⟨"", ["a.log"]⟩ "app" { tree := logTree } = .ok writer made ∧
    ownAndForeign.mapM Append.perform ⟨made.tree, writer, made.journal⟩ =
      .ok collections finished ∧
    Session.close finished = .ok () closed ∧
    List.Forall₂ (Shows made.tree) ownAndForeign texts ∧
    ShownAs closed.tree "a.log" 2 (String.join texts) ∧
    String.join texts =
      "Container: c\n============\n\n\nLogType:stdout\nLogLength:2\nLog Contents:\nhi\n" ++
      "Container: d\n============\n\nOwner 'root' for path " ++
      "'/logs/application_1_0002/container_1_0002_03_000004/stdout' " ++
      "did not match expected owner 'nobody'\n\n" := by
  obtain ⟨writer, made, collections, finished, closed, started, done, closing, items, apart⟩ :=
    appends_own_and_foreign
  obtain ⟨output, opened, shown⟩ := shown_of_appends started
  have calm : ∀ request ∈ ownAndForeign, request.schedule.Calm := by
    simp [ownAndForeign, appendNamed, appendForeign, Schedule.Calm.quiet]
  obtain ⟨texts, shows, shownAs⟩ := shown ownAndForeign collections finished closed calm
    (apart output opened) done closing
  refine ⟨writer, made, collections, finished, closed, texts, started, done, closing, shows, shownAs,
    ?_⟩
  simp only [ownAndForeign, collectedItems, List.map_cons, List.map_nil, List.cons.injEq] at items
  cases shows with
  | cons own shows =>
    cases shows with
    | cons foreign shows =>
      cases shows
      rw [own.eq_of_items? rfl items.1, foreign.eq_of_items? rfl items.2.1]
      decide +kernel

end Archive

end ContainerLogs
