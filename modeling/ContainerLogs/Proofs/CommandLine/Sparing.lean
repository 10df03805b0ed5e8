import ContainerLogs.CommandLine.Program
import ContainerLogs.Proofs.Running

/-!
What runs of the program leave of the file tree. Sorting arguments, printing, refusing and reporting
change nothing in it; what a program does change is what its steps change one after the other.
-/
namespace ContainerLogs.CommandLine

open ContainerLogs.Running

namespace Running

variable {α β ε : Type} {holds : FileTree → FileTree → Prop} {machine : Machine}

/-- What a program leaves of any file tree is related to that tree. -/
def Spares (holds : FileTree → FileTree → Prop) (program : Running α) : Prop :=
  ∀ run, holds run.tree (leaving (program run)).tree

/-- A program that changes nothing in the file tree. -/
abbrev Still (program : Running α) : Prop := Spares Eq program

theorem Still.spares {program : Running α} (still : Still program)
    (refl : ∀ tree, holds tree tree) : Spares holds program := by
  intro run
  rw [← still run]
  exact refl run.tree

theorem Spares.bind {program : Running α} {next : α → Running β} (first : Spares holds program)
    (others : ∀ a, Spares holds (next a))
    (trans : ∀ ⦃before between after⦄, holds before between → holds between after →
      holds before after) : Spares holds (program >>= next) := by
  intro run
  have here := first run
  cases made : program run with
  | ok a between =>
    rw [made] at here
    rw [bind_of_ok made]
    exact trans here (others a between)
  | error ending between =>
    rw [made] at here
    rw [bind_of_error made]
    exact here

theorem Still.bind {program : Running α} {next : α → Running β} (first : Still program)
    (others : ∀ a, Still (next a)) : Still (program >>= next) :=
  Spares.bind first others fun _ _ _ => Eq.trans

theorem pure_still (a : α) : Still (pure a) := fun _ => rfl

private theorem exit_still (code : Nat) : Still (exit code : Running α) := fun _ => rfl

private theorem fail_still (fault : Fault) : Still (fail fault : Running α) := fun _ => rfl

theorem print_still (stream : Stream) (text : String) : Still (print stream text) := by
  intro run
  cases stream <;> rfl

theorem refuse_still (fault : UsageFault) : Still (refuse fault : Running α) :=
  Still.bind (print_still _ _) fun _ => exit_still _

private theorem showHelp_still (page : String) : Still (showHelp page : Running α) :=
  Still.bind (print_still _ _) fun _ => exit_still _

theorem ofExcept_still (fault : ε → Fault) (result : Except ε α) : Still (ofExcept fault result) := by
  cases result with
  | ok a => exact pure_still a
  | error e => exact fail_still _

theorem shown_still (markup : String) : Still (shown markup) := by
  unfold shown
  cases Console.Markup.shown markup with
  | ok text => exact pure_still text
  | error fault => exact fail_still _

theorem say_still (machine : Machine) (stream : Stream) (markup : String) :
    Still (say machine stream markup) :=
  Still.bind (shown_still markup) fun _ => print_still _ _

theorem given_still (options : List OptionForm) (order : Order) (help : String)
    (arguments : List String) : Still (given options order help arguments) := by
  unfold given
  cases sortArguments options order arguments with
  | error fault => exact refuse_still _
  | ok given =>
    simp only
    split
    · exact showHelp_still help
    · exact pure_still given

/-- Reporting a fault leaves what the action left. -/
theorem reporting_leaves (machine : Machine) (action : Running α) (run : Run) :
    (leaving (reporting machine action run)).tree = (leaving (action run)).tree := by
  unfold reporting
  split
  · rename_i fault between failed
    rw [failed]
    split
    · rename_i category _
      exact (Still.bind (say_still machine _ _) (fun _ => exit_still category.exitCode) between).symm
    · rfl
  · rfl

theorem Spares.reporting {action : Running α} (h : Spares holds action) :
    Spares holds (reporting machine action) := by
  intro run
  rw [reporting_leaves]
  exact h run

/-- Results that are had one by one are had together. -/
theorem mapM_ofExcept {ι : Type} (fault : ε → Fault) (result : ι → Except ε α) (list : List ι)
    (run : Run) : list.mapM (fun i => ofExcept fault (result i)) run =
      ofExcept fault (list.mapM result) run := by
  induction list with
  | nil => rfl
  | cons i list ih =>
    rw [List.mapM_cons, List.mapM_cons]
    cases first : result i with
    | error e => rfl
    | ok a =>
      change (list.mapM (fun i => ofExcept fault (result i)) >>= fun others =>
        (pure (a :: others) : Running (List α))) run = _
      rw [bind_of_eq ih]
      cases others : list.mapM result <;> rfl

end Running

namespace Program

open Running

private theorem showVersion_still {α : Type} : Still (showVersion : Running α) := showHelp_still _

private theorem showGuide_still {α : Type} (page : String) : Still (showGuide page : Running α) :=
  Still.bind (print_still _ _) fun _ => exit_still _

private theorem showIfAsked_still (page : String) (given : Given) :
    Still (showIfAsked page given) := by
  unfold showIfAsked
  split
  · split
    · exact showHelp_still page
    · exact showVersion_still
  · exact pure_still ()

private theorem group_still (options : List OptionForm) (page : String) (arguments : List String) :
    Still (group options page arguments) := by
  unfold group
  cases sortArguments options .optionsFirst arguments with
  | error fault => exact refuse_still _
  | ok given => exact Still.bind (showIfAsked_still page given) fun _ => pure_still given

private theorem refuseCommand_still {α : Type} (options : List OptionForm) (page : String)
    (commands arguments : List String) (name : String) :
    Still (refuseCommand options page commands arguments name : Running α) :=
  Still.bind (group_still options page arguments) fun _ => refuse_still _

/-- To find the command of a run is to look at its arguments only. -/
theorem call_still (arguments : List String) : Still (call arguments) := by
  unfold call
  split
  · exact showGuide_still _
  · apply Still.bind (group_still _ _ _)
    intro given
    split
    · exact refuse_still _
    · split
      · exact refuseCommand_still _ _ _ _ _
      · exact pure_still _

/-- A command that is found is the one that the arguments call. -/
theorem sorted_of_call {arguments : List String} {found : Call} {before after : Run}
    (called : call arguments before = .ok found after) : ∃ given name,
    sortArguments programOptions .optionsFirst arguments = .ok given ∧
      given.operands = name :: found.arguments ∧ Command.ofName? name = some found.command := by
  unfold call at called
  split at called
  · cases called
  obtain ⟨given, between, grouped, called⟩ := ok_of_bind called
  have sorted : sortArguments programOptions .optionsFirst arguments = .ok given := by
    unfold group at grouped
    cases sorted : sortArguments programOptions .optionsFirst arguments with
    | error fault =>
      rw [sorted] at grouped
      cases grouped
    | ok given' =>
      rw [sorted] at grouped
      obtain ⟨_, _, _, returned⟩ := ok_of_bind grouped
      cases returned
      rfl
  cases operands : given.operands with
  | nil =>
    rw [operands] at called
    cases called
  | cons name rest =>
    rw [operands] at called
    cases named : Command.ofName? name with
    | none =>
      simp only [named] at called
      obtain ⟨_, _, _, refused⟩ := ok_of_bind called
      cases refused
    | some command =>
      simp only [named] at called
      cases called
      exact ⟨given, name, sorted, operands, named⟩

end Program

end ContainerLogs.CommandLine
