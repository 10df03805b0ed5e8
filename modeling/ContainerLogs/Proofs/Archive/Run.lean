import ContainerLogs.Proofs.Archive.Start
import ContainerLogs.Proofs.Collection.Steps

/-!
Whole runs of a writer: appends and closings in any order, with the room for the archive limited at
any moment. At every point of a run the archive is the preamble, then the records of the appends
that succeeded, then at most the front part of one more record; and where there is such a part, the
writer is closed, so that nothing ever follows it.
-/
namespace ContainerLogs.Archive

/-- The fault that leaves part of a record behind. -/
def WriteFault.tears : WriteFault → Bool
  | .tornRecord .. => true
  | _ => false

/-- An append as it is asked for. -/
structure Append where
  key : Key
  collector : Collector
  host : Host
  schedule : Schedule := .quiet
  queries : Nat := 0

namespace Append

open Session

def perform (request : Append) : Session.Acting Collection :=
  Session.append request.key request.collector request.host request.schedule request.queries

/-- An append during which something fails of the place where the value is put aside. -/
def performSpooled (spool : Trouble) (request : Append) : Session.Acting Collection :=
  Session.appendSpooled spool request.key request.collector request.host request.schedule
    request.queries

def collect (request : Append) : Session.Acting Collection :=
  Session.collect request.collector request.host request.schedule request.queries

/-- The record that an append has to write once it has collected. -/
def record? (request : Append) (session : Session) : Option (Bytes × Bytes) :=
  match request.key.bytes, request.collect session with
  | .ok key, .ok collection _ => some (key, collection.value)
  | _, _ => none

/-- The record of an append that succeeds. -/
def written (request : Append) (session : Session) : List (Bytes × Bytes) :=
  match request.key.bytes, request.perform session with
  | .ok key, .ok collection _ => [(key, collection.value)]
  | _, _ => []

/-- The record of an append that breaks off while it writes. -/
def torn (request : Append) (session : Session) : List (Bytes × Bytes) :=
  match request.record? session, request.perform session with
  | some record, .error (.tornRecord ..) _ => [record]
  | _, _ => []

/-- What matters of the file tree is kept by others while an append collects. -/
def Spares (kept : FileTree → FileTree → Prop) (request : Append) (session : Session) : Prop :=
  kept session.tree (left (request.collect session)).tree

/-- While nobody else changes files, an append changes none but the archive. -/
theorem tree_of_calm {request : Append} (calm : request.schedule.Calm) (session : Session) :
    (left (request.collect session)).tree = session.tree := by
  have kept := (calm.steady request.host session.tree).produce request.collector session.tree
    request.queries rfl
  unfold collect Session.collect
  split <;> rename_i produced <;> rw [produced] at kept <;> exact kept

/-- How an append on an open writer ends. -/
inductive Ends (request : Append) (session : Session) (output : Output) (file owner : Nat)
    (bytes : Bytes) : EStateM.Result WriteFault Session Collection → Prop where
  | written {key : Bytes} {collection : Collection} {after : Session} {next : Output}
      (good : request.key.bytes = .ok key)
      (gathered : request.record? session = some (key, collection.value))
      (fit : Fits key collection.value)
      (enough : ∀ room, output.room = some room →
        (recordBytes key collection.value).length ≤ room)
      (opened : after.writer.output = some next)
      (beside : Beside file (left (request.collect session)) after)
      (keeps : after.Keeps file owner (bytes ++ recordBytes key collection.value)) :
      Ends request session output file owner bytes (.ok collection after)
  | torn {record : Bytes × Bytes} {room : Nat} {after : Session}
      (gathered : request.record? session = some record)
      (limit : output.room = some room)
      (short : room < (recordBytes record.1 record.2).length)
      (closed : after.writer.output = none)
      (keeps : after.Keeps file owner (bytes ++ (recordBytes record.1 record.2).take room)) :
      Ends request session output file owner bytes
        (.error (.tornRecord session.writer.path.text (.bare .noSpace)) after)
  | refused {fault : WriteFault} {after : Session}
      (whole : fault.tears = false)
      (unready : ∀ record, request.record? session = some record → ¬ Fits record.1 record.2)
      (same : after.writer = session.writer)
      (keeps : after.Keeps file owner bytes) :
      Ends request session output file owner bytes (.error fault after)

variable {request : Append} {session : Session} {output : Output} {file owner : Nat} {bytes : Bytes}

/-- What an append hands out is what it collected. -/
theorem collect_of_perform {key : Bytes} {collection : Collection} {after : Session}
    (opened : session.writer.output = some output) (good : request.key.bytes = .ok key)
    (done : request.perform session = .ok collection after) :
    ∃ collected, request.collect session = .ok collection collected := by
  unfold perform at done
  cases made : request.collect session with
  | error fault collected =>
    rw [append_of_collectFault opened good made] at done
    cases done
  | ok collection' collected =>
    cases wrote : writeRecord key collection'.value collected with
    | error fault broken =>
      rw [append_of_writeFault opened good made wrote] at done
      cases done
    | ok _ written =>
      obtain ⟨journal, performed⟩ := append_of_written opened good made wrote
      rw [performed] at done
      cases done
      exact ⟨collected, rfl⟩

/-- An append checks its key, collects, and only then writes: each of the three may end it. -/
theorem ends (opened : session.writer.output = some output) (h : session.Keeps file owner bytes)
    (spared : request.Spares (FileTree.SameNode file) session) :
    Ends request session output file owner bytes (request.perform session) := by
  have same : (left (request.collect session)).writer = session.writer := writer_of_collect session
  have keeps : (left (request.collect session)).Keeps file owner bytes := h.of_spared same spared
  unfold perform
  cases good : request.key.bytes with
  | error fault =>
    rw [append_of_badKey opened good]
    exact .refused rfl (by simp [record?, good]) rfl h
  | ok key =>
    cases made : request.collect session with
    | error fault collected =>
      rw [append_of_collectFault opened good made]
      rw [made] at same keeps
      obtain ⟨cause, rfl⟩ := fault_of_collect made
      exact .refused rfl (by simp [record?, made]) same keeps
    | ok collection collected =>
      have gathered : request.record? session = some (key, collection.value) := by
        simp [record?, good, made]
      rw [made] at same keeps
      have opened' : collected.writer.output = some output := by rw [← opened, ← same]; rfl
      by_cases fit : Fits key collection.value
      · by_cases enough : ∀ room, output.room = some room →
          (recordBytes key collection.value).length ≤ room
        · obtain ⟨after, next, whole, opened'', beside, keeps', -⟩ :=
            writeRecord_whole opened' keeps fit enough
          obtain ⟨journal, done⟩ := append_of_written opened good made whole
          rw [done]
          refine .written good gathered fit enough opened'' ?_ (keeps'.of_spared rfl rfl)
          rw [made]
          exact ⟨beside.path, beside.frame⟩
        · push Not at enough
          obtain ⟨room, limit, short⟩ := enough
          obtain ⟨after, broke, closed, -, keeps'⟩ := writeRecord_torn opened' keeps fit limit short
          rw [append_of_writeFault opened good made broke]
          have path : collected.writer.path = session.writer.path := congrArg Writer.path same
          rw [path]
          exact .torn gathered limit short closed keeps'
      · obtain ⟨fault, unfit⟩ := writeRecord_of_unfit opened' fit
        rw [append_of_writeFault opened good made unfit]
        refine .refused rfl ?_ same keeps
        rintro record found
        obtain rfl := Option.some.inj (gathered.symm.trans found)
        exact fit

end Append

/-- What may happen to a writer. -/
inductive Call where
  | append (request : Append)
  | close
  /-- From now on there is room for so many bytes only. -/
  | limit (room : Option Nat) (closeFails : Bool)

/-- What is left behind the whole records of an archive: nothing, or the front part of the one
record that broke off, after which the writer is closed. -/
inductive Rest : List (Bytes × Bytes) → Bytes → Session → Prop where
  | whole {session : Session} : Rest [] [] session
  | torn {key value front : Bytes} {session : Session}
      (begun : front <+: recordBytes key value)
      (short : front.length < (recordBytes key value).length)
      (closed : session.writer.isClosed = true) : Rest [(key, value)] front session

namespace Call

open Session

/-- What a call leaves, whether or not it fails. -/
def after : Call → Session → Session
  | append request, session => left (request.perform session)
  | close, session => left (Session.close session)
  | limit room closeFails, session =>
      { session with writer := session.writer.limit room closeFails }

def written : Call → Session → List (Bytes × Bytes)
  | append request, session => request.written session
  | _, _ => []

def torn : Call → Session → List (Bytes × Bytes)
  | append request, session => request.torn session
  | _, _ => []

def Spares (kept : FileTree → FileTree → Prop) : Call → Session → Prop
  | append request, session => request.Spares kept session
  | _, _ => True

def afterAll : List Call → Session → Session
  | [], session => session
  | call :: calls, session => afterAll calls (call.after session)

/-- The records of the appends that succeeded, in the order of the calls. -/
def writtenAll : List Call → Session → List (Bytes × Bytes)
  | [], _ => []
  | call :: calls, session => call.written session ++ writtenAll calls (call.after session)

/-- The records of the appends that broke off. -/
def tornAll : List Call → Session → List (Bytes × Bytes)
  | [], _ => []
  | call :: calls, session => call.torn session ++ tornAll calls (call.after session)

/-- What matters of the file tree is kept by others while the appends collect. Where nobody else
changes files, this holds of every run (`undisturbed_of_calm`). -/
def Undisturbed (kept : FileTree → FileTree → Prop) : List Call → Session → Prop
  | [], _ => True
  | call :: calls, session => call.Spares kept session ∧ Undisturbed kept calls (call.after session)

variable {session : Session} {file owner : Nat} {bytes : Bytes} {output : Output}

theorem undisturbed_of_calm {kept : FileTree → FileTree → Prop} (refl : ∀ tree, kept tree tree)
    {calls : List Call} (session : Session)
    (calm : ∀ request, append request ∈ calls → request.schedule.Calm) :
    Undisturbed kept calls session := by
  induction calls generalizing session with
  | nil => trivial
  | cons call calls ih =>
    refine ⟨?_, ih _ fun request among => calm request (List.mem_cons_of_mem _ among)⟩
    cases call with
    | append request =>
      have same := Append.tree_of_calm (calm request List.mem_cons_self) session
      change kept session.tree (left (request.collect session)).tree
      rw [same]
      exact refl session.tree
    | close | limit => trivial

section Closed

variable (closed : session.writer.output = none)
include closed

private theorem perform_of_closed (request : Append) : request.perform session =
    .error (.closed session.writer.path.text) session :=
  append_of_closed closed

private theorem after_of_closed (call : Call) : call.after session = session := by
  cases call with
  | append request => rw [after, perform_of_closed closed]; rfl
  | close => rw [after, close_of_closed closed]; rfl
  | limit room closeFails =>
    obtain ⟨tree, ⟨path, identity, output⟩, journal⟩ := session
    obtain rfl : output = none := closed
    rfl

theorem written_of_closed (call : Call) : call.written session = [] := by
  cases call with
  | append request =>
    rw [written, Append.written, perform_of_closed closed]
    split <;> simp_all
  | close | limit => rfl

theorem torn_of_closed (call : Call) : call.torn session = [] := by
  cases call with
  | append request =>
    rw [torn, Append.torn, perform_of_closed closed]
    split <;> simp_all
  | close | limit => rfl

/-- A closed writer stays as it is, whatever is asked of it. -/
private theorem afterAll_of_closed (calls : List Call) : afterAll calls session = session := by
  induction calls with
  | nil => rfl
  | cons call calls ih => rw [afterAll, after_of_closed closed, ih]

private theorem writtenAll_of_closed (calls : List Call) : writtenAll calls session = [] := by
  induction calls with
  | nil => rfl
  | cons call calls ih =>
    rw [writtenAll, after_of_closed closed, written_of_closed closed, ih, List.append_nil]

private theorem tornAll_of_closed (calls : List Call) : tornAll calls session = [] := by
  induction calls with
  | nil => rfl
  | cons call calls ih =>
    rw [tornAll, after_of_closed closed, torn_of_closed closed, ih, List.append_nil]

end Closed

theorem isClosed_iff {writer : Writer} : writer.isClosed = true ↔ writer.output = none := by
  simp [Writer.isClosed]

/-- One call adds a whole record, or the front part of one, or nothing. -/
theorem after_keeps (call : Call) (h : session.Keeps file owner bytes)
    (spared : call.Spares (FileTree.SameNode file) session) :
    ∃ rest, Rest (call.torn session) rest (call.after session) ∧
      (call.after session).Keeps file owner (bytes ++ (recordsBytes (call.written session) ++ rest)) := by
  cases opened : session.writer.output with
  | none =>
    refine ⟨[], ?_, ?_⟩
    · rw [torn_of_closed opened]
      exact .whole
    · rw [after_of_closed opened, written_of_closed opened]
      simpa using h
  | some output =>
    cases call with
    | close =>
      obtain ⟨-, -, keeps⟩ := close_of_open opened h
      exact ⟨[], .whole, by simpa [written, after] using keeps⟩
    | limit room closeFails =>
      exact ⟨[], .whole, by simpa [written, after] using h.limit room closeFails⟩
    | append request =>
      have ended := Append.ends opened h spared
      simp only [after, written, torn, Append.written, Append.torn]
      generalize request.perform session = result at ended
      cases ended with
      | written good gathered _ _ _ _ keeps =>
        refine ⟨[], ?_, ?_⟩
        · simpa [gathered] using Rest.whole
        · simpa [good, left] using keeps
      | @torn record room after gathered limit short closed keeps =>
        refine ⟨(recordBytes record.1 record.2).take room, ?_, ?_⟩
        · simp only [gathered]
          exact .torn (List.take_prefix _ _) (by rw [List.length_take]; omega) (isClosed_iff.2 closed)
        · simpa [left] using keeps
      | @refused fault after whole unready same keeps =>
        refine ⟨[], ?_, by simpa [left] using keeps⟩
        cases fault with
        | tornRecord => cases whole
        | _ => simpa using Rest.whole

/-- A run adds whole records and then at most the front part of one. -/
theorem afterAll_keeps (calls : List Call) (h : session.Keeps file owner bytes)
    (spared : Undisturbed (FileTree.SameNode file) calls session) :
    ∃ rest, Rest (tornAll calls session) rest (afterAll calls session) ∧
      (afterAll calls session).Keeps file owner
        (bytes ++ (recordsBytes (writtenAll calls session) ++ rest)) := by
  induction calls generalizing session bytes with
  | nil => exact ⟨[], .whole, by simpa [writtenAll, afterAll] using h⟩
  | cons call calls ih =>
    obtain ⟨front, first, keeps⟩ := after_keeps call h spared.1
    obtain ⟨back, others, keeps'⟩ := ih keeps spared.2
    -- Behind a part of a record the writer is closed, so the calls that follow add nothing.
    simp only [afterAll, writtenAll, tornAll]
    generalize call.torn session = broken at first
    cases first with
    | whole => exact ⟨back, others, by simpa using keeps'⟩
    | torn begun short closed =>
      have ended := isClosed_iff.1 closed
      refine ⟨front, ?_, ?_⟩
      · rw [tornAll_of_closed ended, afterAll_of_closed ended]
        exact .torn begun short closed
      · rw [afterAll_of_closed ended, writtenAll_of_closed ended]
        simpa using keeps

end Call

/-- What the next request can make of a writer and of its archive. -/
structure Orderly (file : Nat) (session : Session) : Prop where
  /-- A record for which there is room is appended. -/
  roomy {request : Append} {output : Output} {record : Bytes × Bytes}
    (spared : request.Spares (FileTree.SameNode file) session) (opened : session.writer.output = some output)
    (gathered : request.record? session = some record) (fit : Session.Fits record.1 record.2)
    (enough : ∀ room, output.room = some room → (recordBytes record.1 record.2).length ≤ room) :
    ∃ collection after, request.perform session = .ok collection after ∧
      after.writer.isClosed = false ∧
      after.archived file = session.archived file ++ recordBytes record.1 record.2
  /-- A record for which there is not enough room is torn where the room ends. The writer is closed
  then, whether or not closing its file fails. -/
  crossing {request : Append} {output : Output} {record : Bytes × Bytes} {room : Nat}
    (spared : request.Spares (FileTree.SameNode file) session) (opened : session.writer.output = some output)
    (gathered : request.record? session = some record) (fit : Session.Fits record.1 record.2)
    (limit : output.room = some room) (short : room < (recordBytes record.1 record.2).length) :
    ∃ after, request.perform session =
        .error (.tornRecord session.writer.path.text (.bare .noSpace)) after ∧
      after.writer.isClosed = true ∧
      after.archived file = session.archived file ++ (recordBytes record.1 record.2).take room
  /-- An append that fails in any other way changes neither the archive nor its writer. -/
  refused {request : Append} {fault : WriteFault} {after : Session}
    (spared : request.Spares (FileTree.SameNode file) session) (failed : request.perform session = .error fault after)
    (whole : fault.tears = false) :
    after.writer = session.writer ∧ after.archived file = session.archived file
  /-- A bad key is refused before anything is collected. -/
  badKey {request : Append} {fault : KeyFault} (opened : session.writer.isClosed = false)
    (bad : request.key.bytes = .error fault) :
    request.perform session = .error (.key fault) session
  /-- A collection that fails is not appended. -/
  uncollected {request : Append} {key : Bytes} {fault : WriteFault} {after : Session}
    (opened : session.writer.isClosed = false) (good : request.key.bytes = .ok key)
    (failed : request.collect session = .error fault after) :
    request.perform session = .error fault after ∧ ∃ cause, fault = .collection cause
  /-- Closing, also where it fails, closes the writer and keeps the archive. -/
  closing : (Call.close.after session).writer.isClosed = true ∧
    (Call.close.after session).archived file = session.archived file
  /-- A closed writer appends nothing, and nothing that is asked of it changes anything. -/
  closed (ended : session.writer.isClosed = true) :
    (∀ request : Append,
      request.perform session = .error (.closed session.writer.path.text) session) ∧
    Session.close session = .ok () session ∧ ∀ calls, Call.afterAll calls session = session

private theorem isClosed_eq_false {writer : Writer} (h : writer.isClosed = false) :
    ∃ output, writer.output = some output := by
  cases found : writer.output with
  | none => simp [Writer.isClosed, found] at h
  | some output => exact ⟨output, rfl⟩

private theorem isClosed_of_some {writer : Writer} {output : Output}
    (h : writer.output = some output) :
    writer.isClosed = false := by
  simp [Writer.isClosed, h]

open Session in
/-- Every writer that keeps its archive is orderly. -/
private theorem orderly_of_keeps {session : Session} {file owner : Nat} {bytes : Bytes}
    (h : session.Keeps file owner bytes) : Orderly file session where
  roomy {request output record} spared opened gathered fit enough := by
    have ended := Append.ends opened h spared
    rw [h.archived_eq]
    generalize request.perform session = result at ended
    cases ended with
    | written _ found _ _ opened' _ keeps =>
      obtain rfl := Option.some.inj (gathered.symm.trans found)
      exact ⟨_, _, rfl, isClosed_of_some opened', keeps.archived_eq⟩
    | torn found limit short =>
      obtain rfl := Option.some.inj (gathered.symm.trans found)
      exact absurd short (Nat.not_lt.2 (enough _ limit))
    | refused _ unready => exact absurd fit (unready _ gathered)
  crossing {request output record room} spared opened gathered fit limit short := by
    have ended := Append.ends opened h spared
    rw [h.archived_eq]
    generalize request.perform session = result at ended
    cases ended with
    | written _ found _ enough =>
      obtain rfl := Option.some.inj (gathered.symm.trans found)
      exact absurd short (Nat.not_lt.2 (enough _ limit))
    | torn found limit' _ closed keeps =>
      obtain rfl := Option.some.inj (gathered.symm.trans found)
      obtain rfl := Option.some.inj (limit.symm.trans limit')
      exact ⟨_, rfl, Call.isClosed_iff.2 closed, keeps.archived_eq⟩
    | refused _ unready => exact absurd fit (unready _ gathered)
  refused {request fault after} spared failed whole := by
    cases opened : session.writer.output with
    | none =>
      rw [Call.perform_of_closed opened] at failed
      cases failed
      exact ⟨rfl, rfl⟩
    | some output =>
      have ended := Append.ends opened h spared
      rw [failed] at ended
      cases ended with
      | torn => cases whole
      | refused _ _ same keeps => exact ⟨same, keeps.archived_eq.trans h.archived_eq.symm⟩
  badKey opened bad := by
    obtain ⟨output, opened⟩ := isClosed_eq_false opened
    exact append_of_badKey opened bad
  uncollected opened good failed := by
    obtain ⟨output, opened⟩ := isClosed_eq_false opened
    exact ⟨append_of_collectFault opened good failed, fault_of_collect failed⟩
  closing := by
    cases opened : session.writer.output with
    | none =>
      rw [Call.after_of_closed opened]
      exact ⟨Call.isClosed_iff.2 opened, rfl⟩
    | some output =>
      obtain ⟨closed, -, keeps⟩ := close_of_open opened h
      exact ⟨Call.isClosed_iff.2 closed, keeps.archived_eq.trans h.archived_eq.symm⟩
  closed ended := by
    have closed := Call.isClosed_iff.1 ended
    exact ⟨Call.perform_of_closed closed, close_of_closed closed, Call.afterAll_of_closed closed⟩

/-- What an archive begins with: a record VERSION that holds 1, and a record APPLICATION_OWNER that holds
whom it belongs to. -/
def headBytes (identity : String) : Bytes :=
  [0, 0, 0, 7] ++ Text.Utf8.encode "VERSION" ++ [0, 0, 0, 0, 0, 0, 0, 4] ++ [0, 0, 0, 1] ++
    ([0, 0, 0, 17] ++ Text.Utf8.encode "APPLICATION_OWNER" ++
      (Wire.long (Text.Utf8.encode identity).length ++ Text.Utf8.encode identity))

private theorem recordsBytes_preamble (identity : String) :
    recordsBytes (preamble identity) = headBytes identity := by
  have version : recordBytes (Text.Utf8.encode versionName) (Wire.int formatVersion) =
      [0, 0, 0, 7] ++ Text.Utf8.encode "VERSION" ++ [0, 0, 0, 0, 0, 0, 0, 4] ++ [0, 0, 0, 1] := by
    decide
  have owner : Wire.counted (Text.Utf8.encode ownerName) =
      [0, 0, 0, 17] ++ Text.Utf8.encode "APPLICATION_OWNER" := by decide
  rw [preamble, recordsBytes_cons, recordsBytes_cons, recordsBytes_nil, List.append_nil, version,
    recordBytes, owner]
  rfl

/-- An archive after a run of calls. -/
structure Framed (file : Nat) (identity : String) (calls : List Call) (session : Session) : Prop where
  /-- The archive is its head, the records of the appends that succeeded, and the rest. -/
  bytes : ∃ rest, Rest (Call.tornAll calls session) rest (Call.afterAll calls session) ∧
    (Call.afterAll calls session).archived file =
      headBytes identity ++ (recordsBytes (Call.writtenAll calls session) ++ rest)
  next : Orderly file (Call.afterAll calls session)

/-- Whatever is asked of a writer that was opened, and wherever the room for its archive ends, the
archive stays in order. -/
theorem framed_of_start {process : Process} {conditions : Conditions} {path : Path}
    {identity : String} {trace made : Session.Trace} {writer : Writer}
    (started : Session.start process conditions path identity trace = .ok writer made) :
    ∃ output, writer.output = some output ∧ ∀ calls,
      Call.Undisturbed (FileTree.SameNode output.file) calls ⟨made.tree, writer, made.journal⟩ →
      Framed output.file identity calls ⟨made.tree, writer, made.journal⟩ := by
  obtain ⟨_, _, _, output, _, _, opened, rfl, _, _, _, keeps⟩ := Session.start_eq_ok started
  refine ⟨output, opened, fun calls spared => ?_⟩
  obtain ⟨rest, behind, keeps'⟩ := Call.afterAll_keeps calls keeps spared
  refine ⟨⟨rest, behind, ?_⟩, orderly_of_keeps keeps'⟩
  rw [keeps'.archived_eq, recordsBytes_preamble]

/-- Whether a run ends without a fault. -/
def succeeds {ε σ α : Type} : EStateM.Result ε σ α → Bool
  | .ok .. => true
  | .error .. => false

theorem exists_of_succeeds {ε σ α : Type} {result : EStateM.Result ε σ α}
    (h : succeeds result = true) : ∃ a state, result = .ok a state := by
  cases result with
  | ok a state => exact ⟨a, state, rfl⟩
  | error fault state => cases h

theorem start_in_empty : ∃ writer made,
    Session.start {} { room := some 80 } ⟨"", ["a.log"]⟩ "app" { tree := .empty } =
      .ok writer made := by
  apply exists_of_succeeds
  simp only [Session.start, Session.openFile]
  rw [FileTree.makeDirectories]
  decide +kernel

/-- An append of the logs of one container below one root. -/
def appendNamed (name : String) : Append where
  key := ⟨some name⟩
  collector := ⟨[⟨"/", ["logs"]⟩], ⟨⟨1, 2⟩, 3, 4, none⟩, .fixed "root"⟩
  host := { users := [(0, "root")] }

/-- A reserved key, a limit that tears a record, and calls on the closed writer. -/
def tearingCalls : List Call :=
  [.append (appendNamed "c"), .append (appendNamed versionName), .limit (some 3) true,
    .append (appendNamed "d"), .append (appendNamed "e"), .close]

theorem framed_in_empty : ∃ (output : Output) (made : Session.Trace) (writer : Writer),
    Session.start {} { room := some 80 } ⟨"", ["a.log"]⟩ "app" { tree := .empty } =
      .ok writer made ∧ writer.output = some output ∧
    Framed output.file "app" tearingCalls ⟨made.tree, writer, made.journal⟩ ∧
    (Call.afterAll tearingCalls ⟨made.tree, writer, made.journal⟩).archived output.file =
      [0, 0, 0, 7] ++ Text.Utf8.encode "VERSION" ++ [0, 0, 0, 0, 0, 0, 0, 4] ++ [0, 0, 0, 1] ++
      ([0, 0, 0, 17] ++ Text.Utf8.encode "APPLICATION_OWNER" ++ [0, 0, 0, 0, 0, 0, 0, 3] ++
        Text.Utf8.encode "app") ++
      ([0, 0, 0, 1] ++ Text.Utf8.encode "c" ++ [0, 0, 0, 0, 0, 0, 0, 0]) ++ [0, 0, 0] := by
  have run : EStateM.run' (do
      let writer ← Session.start {} { room := some 80 } ⟨"", ["a.log"]⟩ "app"
      let made ← get
      return writer.output.map fun output =>
        (Call.afterAll tearingCalls ⟨made.tree, writer, made.journal⟩).archived output.file)
      { tree := .empty } = some (some
        ([0, 0, 0, 7] ++ Text.Utf8.encode "VERSION" ++ [0, 0, 0, 0, 0, 0, 0, 4] ++ [0, 0, 0, 1] ++
        ([0, 0, 0, 17] ++ Text.Utf8.encode "APPLICATION_OWNER" ++ [0, 0, 0, 0, 0, 0, 0, 3] ++
          Text.Utf8.encode "app") ++
        ([0, 0, 0, 1] ++ Text.Utf8.encode "c" ++ [0, 0, 0, 0, 0, 0, 0, 0]) ++ [0, 0, 0])) := by
    delta EStateM.run'
    simp only [EStateM.run, bind, EStateM.bind, Session.start, Session.openFile]
    rw [FileTree.makeDirectories]
    decide +kernel
  obtain ⟨writer, made, started⟩ := start_in_empty
  obtain ⟨output, opened, framed⟩ := framed_of_start started
  delta EStateM.run' at run
  simp only [EStateM.run, Running.bind_of_ok started, Running.get_bind, Running.pure_apply, opened,
    Option.map_some, Option.some.injEq] at run
  refine ⟨output, made, writer, started, opened, framed _ (Call.undisturbed_of_calm (.refl _) _ ?_),
    run⟩
  intro request among
  simp only [tearingCalls, List.mem_cons, Call.append.injEq, reduceCtorEq, List.not_mem_nil,
    or_false, false_or] at among
  rcases among with rfl | rfl | rfl | rfl <;> exact .quiet

end ContainerLogs.Archive
