import ContainerLogs.Proofs.Archive.Failing
import ContainerLogs.Proofs.CommandLine.Rejection

/-!
What a command makes of a failing storage. The archive is closed in any case. A record that could not
be stored is a fault that the command foresees, and ends it with the code for such faults; where
closing the archive fails, the refusal that comes out is none of these, and passes the report by.
-/
namespace ContainerLogs.CommandLine

open Archive (FailsClosed Writer)
open Archive.Session (Settles Settling close left)
open ContainerLogs.Running

namespace Running

variable {α : Type} {machine : Machine} {action : Running α} {fault : Fault} {before between : Run}

/-- The text under which a fault is reported. -/
def reportOf (category : Category) (fault : Fault) : String :=
  "[red]" ++ category.heading ++ "[/red] " ++ fault.report

/-- A fault that is foreseen ends the run with the code of its category, if its report can be shown. -/
private theorem reporting_of_foreseen {category : Category}
    (failed : action before = .error (.fault fault) between)
    (foreseen : fault.category? = some category) :
    match Console.Markup.shown (reportOf category fault) with
    | .ok _ => ∃ after, reporting machine action before = .error (.exit category.exitCode) after
    | .error unshown =>
        ∃ after, reporting machine action before = .error (.fault (.markup unshown)) after := by
  unfold reporting report say shown reportOf
  simp only [failed, foreseen]
  cases Console.Markup.shown ("[red]" ++ category.heading ++ "[/red] " ++ fault.report) with
  | ok text => exact ⟨_, rfl⟩
  | error unshown => exact ⟨_, rfl⟩

private theorem reporting_of_unforeseen (failed : action before = .error (.fault fault) between)
    (unforeseen : fault.category? = none) :
    reporting machine action before = .error (.fault fault) between := by
  unfold reporting
  simp only [failed, unforeseen]

end Running

open Running

namespace AggregateOrder.Plan

variable {plan : Plan} {host : Host} {machine : Machine} {writer : Writer} {run : Run}
  {session between : Archive.Session} {fault : Archive.WriteFault} {tallies : List Tally}

/-- The appends of an order, up to the first that fails. -/
def appends (plan : Plan) (host : Host) : Archive.Session.Acting (List Tally) :=
  plan.containers.mapM (plan.appendContainer host)

private theorem appends_settling (plan : Plan) (host : Host) : Settling (plan.appends host) :=
  .mapM (fun _ => (Settling.append _ _ _ _ _).bind fun _ => .pure _) plan.containers

private theorem close_bind {α : Type} (next : Unit → Archive.Session.Acting α) :
    (close >>= next) session =
      if session.writer.closingFails then
        .error (.refused (.bare .deviceFault)) (left (close session))
      else next () (left (close session)) := by
  have closing := Archive.Session.close_eq session
  split <;> rename_i fails
  · rw [if_pos fails] at closing
    exact bind_of_error closing next
  · rw [if_neg fails] at closing
    exact bind_of_ok closing next

theorem fill_of_error (failed : plan.appends host session = .error fault between) :
    plan.fill host session =
      if between.writer.closingFails then
        .error (.refused (.bare .deviceFault)) (left (close between))
      else .error fault (left (close between)) := by
  have handled := tryCatch_of_error failed fun fault => (do close; throw fault)
  rw [close_bind] at handled
  unfold fill
  split <;> rename_i fails
  · rw [if_pos fails] at handled
    exact bind_of_error handled _
  · rw [if_neg fails] at handled
    exact bind_of_error handled _

theorem fill_of_ok (made : plan.appends host session = .ok tallies between) :
    plan.fill host session =
      if between.writer.closingFails then
        .error (.refused (.bare .deviceFault)) (left (close between))
      else .ok tallies (left (close between)) := by
  have caught := tryCatch_of_ok made fun fault => (do close; throw fault)
  refine (bind_of_ok caught _).trans ?_
  rw [close_bind]
  rfl

/-- Whatever becomes of the appends, the archive is closed behind them. -/
private theorem isClosed_of_fill (plan : Plan) (host : Host) (session : Archive.Session) :
    (left (plan.fill host session)).writer.isClosed = true := by
  cases appended : plan.appends host session with
  | error fault between =>
    rw [fill_of_error appended]
    split <;> exact Archive.Session.isClosed_of_close between
  | ok tallies between =>
    rw [fill_of_ok appended]
    split <;> exact Archive.Session.isClosed_of_close between

/-- A torn record closed the writer, so closing it again is no matter. -/
private theorem fill_of_torn {path : String} {refusal : Refusal}
    (torn : plan.appends host session = .error (.tornRecord path refusal) between) :
    ∃ after, plan.fill host session = .error (.tornRecord path refusal) after := by
  have settles := plan.appends_settling host session
  rw [torn] at settles
  have closed : between.writer.closingFails = false := by
    cases settles with
    | torn closed => exact Writer.closingFails_of_closed closed
    | refused whole => cases whole
  rw [fill_of_error torn, if_neg (by simp [closed])]
  exact ⟨_, rfl⟩

/-- Where no record was torn, it is the closing that fails, whatever else went wrong. -/
private theorem fill_of_unflushed (fails : session.writer.closingFails = true)
    (whole : ∀ fault between, plan.appends host session = .error fault between →
      fault.tears = false) :
    ∃ after, plan.fill host session = .error (.refused (.bare .deviceFault)) after := by
  have settles := plan.appends_settling host session
  cases appended : plan.appends host session with
  | error fault between =>
    rw [appended] at settles
    cases settles with
    | torn => cases whole _ _ appended
    | refused _ _ same =>
      rw [fill_of_error appended, if_pos (same.trans fails)]
      exact ⟨_, rfl⟩
  | ok tallies between =>
    rw [appended] at settles
    cases settles with
    | done same =>
      rw [fill_of_ok appended, if_pos (same.trans fails)]
      exact ⟨_, rfl⟩

/-- While closing does not fail, no refusal comes out bare. -/
private theorem typed_of_fill (sound : session.writer.closingFails = false)
    (failed : plan.fill host session = .error fault between) : fault.isBare = false := by
  have settles := plan.appends_settling host session
  cases appended : plan.appends host session with
  | error cause torn =>
    rw [appended] at settles
    rw [fill_of_error appended] at failed
    cases settles with
    | torn closed =>
      rw [if_neg (by simp [Writer.closingFails_of_closed closed])] at failed
      cases failed
      rfl
    | refused whole typed same =>
      rw [if_neg (by simp [same.trans sound])] at failed
      cases failed
      exact typed
  | ok tallies between =>
    rw [appended] at settles
    rw [fill_of_ok appended] at failed
    cases settles with
    | done same =>
      rw [if_neg (by simp [same.trans sound])] at failed
      cases failed

/-- Writes the records of an order to a writer, in whatever condition its storage is. -/
def writeTo (plan : Plan) (machine : Machine) (writer : Writer) : Running (List Tally) := fun run =>
  match plan.fill machine.host ⟨run.tree, writer, []⟩ with
  | .ok tallies session =>
      (do log machine session.journal; pure tallies) { run with tree := session.tree }
  | .error fault session =>
      (do log machine session.journal; fail (.writing fault)) { run with tree := session.tree }

/-- An order creates its archive and then writes to it. -/
theorem write_eq (plan : Plan) (machine : Machine) :
    plan.write machine = plan.create machine >>= plan.writeTo machine := rfl

private theorem writeTo_of_error
    (failed : plan.fill machine.host ⟨run.tree, writer, []⟩ = .error fault between) :
    ∃ after, plan.writeTo machine writer run = .error (.fault (.writing fault)) after := by
  unfold writeTo
  rw [failed]
  exact ⟨_, rfl⟩

end AggregateOrder.Plan

open AggregateOrder (Plan)

/-- What a command makes of the failures of its writer. -/
structure ReportsFailures (plan : Plan) (machine : Machine) (writer : Writer) (run : Run) : Prop where
  /-- The archive is closed behind the records, whatever became of them. -/
  closed : (left (plan.fill machine.host ⟨run.tree, writer, []⟩)).writer.isClosed = true
  /-- A record that was torn ends the command with the code of foreseen faults, if its message can be
  shown. -/
  torn {path : String} {refusal : Refusal} {broken : Archive.Session}
    (torn : plan.appends machine.host ⟨run.tree, writer, []⟩ =
      .error (.tornRecord path refusal) broken) :
    match Console.Markup.shown (reportOf .other (.writing (.tornRecord path refusal))) with
    | .ok _ => ∃ after, reporting machine (plan.writeTo machine writer) run = .error (.exit 1) after
    | .error unshown => ∃ after,
        reporting machine (plan.writeTo machine writer) run = .error (.fault (.markup unshown)) after
  /-- Where closing the archive fails, the refusal passes the report by. -/
  unflushed (fails : writer.closingFails = true)
    (whole : ∀ fault broken, plan.appends machine.host ⟨run.tree, writer, []⟩ = .error fault broken →
      fault.tears = false) :
    ∃ after, reporting machine (plan.writeTo machine writer) run =
      .error (.fault (.writing (.refused (.bare .deviceFault)))) after
  /-- Nothing else lets a refusal out bare. -/
  typed {fault : Archive.WriteFault} {after : Archive.Session} (sound : writer.closingFails = false)
    (failed : plan.fill machine.host ⟨run.tree, writer, []⟩ = .error fault after) :
    fault.isBare = false

/-- Storage that fails while a record is written comes out of the writer as a torn record and ends the
command as a foreseen fault; storage that fails when the archive is closed comes out as it is. -/
theorem storage_failures (session : Archive.Session) (plan : Plan) (machine : Machine) (writer : Writer)
    (run : Run) : FailsClosed session ∧ ReportsFailures plan machine writer run := by
  constructor
  · exact Archive.failsClosed session
  constructor
  · exact plan.isClosed_of_fill machine.host _
  · intro path refusal broken torn
    obtain ⟨after, failed⟩ := AggregateOrder.Plan.fill_of_torn torn
    obtain ⟨stopped, failed⟩ := AggregateOrder.Plan.writeTo_of_error failed
    exact reporting_of_foreseen failed rfl
  · intro fails whole
    obtain ⟨after, failed⟩ := AggregateOrder.Plan.fill_of_unflushed fails whole
    obtain ⟨stopped, failed⟩ := AggregateOrder.Plan.writeTo_of_error failed
    exact ⟨stopped, reporting_of_unforeseen failed rfl⟩
  · intro fault after sound failed
    apply AggregateOrder.Plan.typed_of_fill _ failed
    exact sound

/-- An archive that cannot be closed, and a refusal that is not foreseen. -/
theorem unflushed_in_empty : ∃ writer made after,
    Archive.Session.start {} {} ⟨"", ["a.log"]⟩ "root" { tree := .empty } = .ok writer made ∧
    close ⟨made.tree, writer.limit (some 1000000) true, made.journal⟩ =
      .error (.refused (.bare .deviceFault)) after ∧
    (Fault.writing (.refused (.bare .deviceFault))).category? = none := by
  have started : ∃ writer made,
      Archive.Session.start {} {} ⟨"", ["a.log"]⟩ "root" { tree := .empty } = .ok writer made := by
    apply Archive.exists_of_succeeds
    simp only [Archive.Session.start, Archive.Session.openFile]
    rw [FileTree.makeDirectories]
    decide +kernel
  obtain ⟨writer, made, started⟩ := started
  obtain ⟨_, _, _, output, -, -, opened, -⟩ := Archive.Session.start_eq_ok started
  have fails : (writer.limit (some 1000000) true).closingFails = true := by
    simp [Writer.closingFails, Writer.limit, Archive.Output.limit, opened]
  have closing := Archive.Session.close_eq
    ⟨made.tree, writer.limit (some 1000000) true, made.journal⟩
  rw [if_pos fails] at closing
  exact ⟨writer, made, _, started, closing, rfl⟩

end ContainerLogs.CommandLine
