import ContainerLogs.Proofs.CommandLine.Failing
import ContainerLogs.Proofs.Console.Fitting
import ContainerLogs.Proofs.Console.Markup

/-!
What the user learns of a fault that is foreseen. Its report becomes part of marked-up text as it is:
one that means nothing to the console is printed character by character, under its heading, before the
run ends with the code of its category. One with a closing tag that closes nothing cannot be printed,
and then another fault comes out; tags are not printed at all.
-/
namespace ContainerLogs.CommandLine

open Console.Layout (Fits Regular Wrapped written)
open Console.Markup (IsTagBody Plain Unmatched isTerminalControl pieces textOf)
open ContainerLogs.Running CommandLine.Running

namespace Category

/-- What is to be read of a report. -/
def announced (category : Category) (report : List Char) : List Char :=
  category.heading.toList ++ ' ' :: report

/-- A heading without the colon that it ends in. -/
def title : Category → String
  | configuration => "Config error"
  | creation => "Cannot create archive"
  | other => "Error"

private theorem heading_eq (category : Category) :
    category.heading.toList = category.title.toList ++ [':'] := by
  cases category <;> decide

private theorem heading_plain (category : Category) : Plain category.heading.toList := by
  have absent : '[' ∉ category.heading.toList := by cases category <;> decide
  refine .of_absent absent ?_ (by cases category <;> decide)
  rw [heading_eq]
  exact Console.Emoji.replaceNames_of_one_colon _ _ (by cases category <;> decide) (by simp) (by simp)

private theorem heading_regular {width : Nat} (positive : 0 < width) (category : Category) :
    ∀ c ∈ category.heading.toList, Regular width c :=
  .of_all positive (by cases category <;> decide)

end Category

/-! ### Marking up -/

private theorem textOf_reportOf (category : Category) (fault : Fault) :
    textOf [] (pieces (reportOf category fault).toList) =
      (textOf [] (pieces (' ' :: fault.report.toList))).map (category.heading.toList ++ ·) := by
  have heading : '[' ∉ category.heading.toList ∧ category.heading.toList.getLast? ≠ some '\\' ∧
      category.heading.toList ≠ [] := by cases category <;> decide
  obtain ⟨absent, bare, hasHeading⟩ := heading
  have plain : Console.Markup.plainPiece category.heading.toList = [.plain category.heading.toList] :=
    if_neg (by simpa using hasHeading)
  have markup : (reportOf category fault).toList =
      [] ++ '[' :: ("red".toList ++ ']' :: (category.heading.toList ++
        '[' :: ("/red".toList ++ ']' :: (' ' :: fault.report.toList)))) := by
    simp [reportOf]
  have opening : IsTagBody "red".toList := .of_all (by decide) (by decide)
  have closing : IsTagBody "/red".toList := .of_all (by decide) (by decide)
  rw [markup, Console.Markup.pieces_append_tag opening (by decide) (by decide),
    Console.Markup.pieces_append_tag closing absent bare, plain]
  have tags : Console.Markup.tag "red".toList = .opening "red".toList ∧
      Console.Markup.tag "/red".toList = .closing "red".toList := by decide
  rw [tags.1, tags.2]
  simp [textOf, Console.Markup.plainPiece, category.heading_plain.noName]

/-- A report can be shown under its heading or not, as its tags match. -/
private theorem shown_eq_error_iff (category : Category) (fault : Fault) :
    (∃ unshown, Console.Markup.shown (reportOf category fault) = .error unshown) ↔
      Unmatched [] (pieces fault.report.toList) := by
  have behind : Unmatched [] (pieces (' ' :: fault.report.toList)) ↔
      Unmatched [] (pieces fault.report.toList) := by
    rw [pieces, Console.Markup.piecesAfter_cons (by simp)]
    exact Console.Markup.unmatched_piecesAfter _ rfl
  rw [← behind, ← Console.Markup.textOf_eq_error_iff, Console.Markup.shown, textOf_reportOf]
  cases textOf [] (pieces (' ' :: fault.report.toList)) <;> simp [Except.map]

private theorem shown_of_plain (category : Category) {fault : Fault}
    (plain : Plain fault.report.toList) :
    Console.Markup.shown (reportOf category fault) = .ok (category.announced fault.report.toList) := by
  have behind := Console.Markup.plain_space_cons.2 plain
  have whole : (category.heading.toList ++ ' ' :: fault.report.toList).filter (¬ isTerminalControl ·) =
      category.announced fault.report.toList := by
    rw [List.filter_append, category.heading_plain.filter_eq, behind.filter_eq]
    rfl
  rw [Console.Markup.shown, textOf_reportOf, Console.Markup.textOf_of_plain behind]
  exact congrArg Except.ok whole

/-- Where no name of an emoji comes up behind the heading, nothing but a plain report is shown as it
is. -/
private theorem plain_of_shown {category : Category} {fault : Fault}
    (nameless : ∀ part, .plain part ∈ pieces (' ' :: fault.report.toList) →
      Console.Emoji.replaceNames part = part)
    (shown : Console.Markup.shown (reportOf category fault) =
      .ok (category.announced fault.report.toList)) :
    Plain fault.report.toList := by
  rw [Console.Markup.shown, textOf_reportOf] at shown
  cases marked : textOf [] (pieces (' ' :: fault.report.toList)) with
  | error unshown =>
    rw [marked] at shown
    cases shown
  | ok text =>
    rw [marked] at shown
    have same : (category.heading.toList ++ text).filter (¬ isTerminalControl ·) =
        category.announced fault.report.toList := Except.ok.inj shown
    rw [List.filter_append, category.heading_plain.filter_eq] at same
    have behind := List.append_cancel_left same
    exact Console.Markup.plain_space_cons.1 (Console.Markup.plain_of_shown nameless marked behind)

/-! ### Printing -/

private theorem join_lines (lines : List (List Char)) :
    String.join (lines.map fun line => String.ofList line ++ "\n") = String.ofList (written lines) := by
  induction lines with
  | nil => rfl
  | cons line lines ih =>
    have first : written (line :: lines) = line ++ ['\n'] ++ written lines := List.flatMap_cons
    rw [List.map_cons, String.join_cons, ih, first, String.ofList_append, String.ofList_append]

private theorem printLines_errors (lines : List (List Char)) (run : Run) :
    printLines .errors lines run =
      .ok () { run with errors := run.errors ++ String.ofList (written lines) } := by
  rw [← join_lines]
  rfl

variable {α : Type} (machine : Machine) {action : Running α} {fault : Fault} {category : Category}
  {before between : Run}

/-- What a foreseen fault comes to, by what its report shows. -/
private theorem reporting_eq (failed : action before = .error (.fault fault) between)
    (foreseen : fault.category? = some category) :
    reporting machine action before =
      match Console.Markup.shown (reportOf category fault) with
      | .ok text => .error (.exit category.exitCode)
          { between with
            errors := between.errors ++
              String.ofList (written (Console.Layout.lines machine.width text)) }
      | .error unshown => .error (.fault (.markup unshown)) between := by
  unfold reporting report say shown reportOf
  simp only [failed, foreseen]
  cases Console.Markup.shown ("[red]" ++ category.heading ++ "[/red] " ++ fault.report) with
  | ok text => exact bind_of_ok (printLines_errors _ between) _
  | error unshown => rfl

/-- How a fault is told to the user, by a run that ends with a code. -/
structure Reported (machine : Machine) (fault : Fault) (category : Category) (code : Nat)
    (between : Run) (result : EStateM.Result Ending Run α) : Prop where
  /-- Where a closing tag closes nothing, another fault comes out, and nothing is printed. -/
  unmatched : Unmatched [] (pieces fault.report.toList) →
    ∃ unshown, result = .error (.fault (.markup unshown)) between
  /-- Otherwise the run ends with the code, and nothing is changed but for the lines it prints. -/
  ends : ¬ Unmatched [] (pieces fault.report.toList) →
    ∃ text, Console.Markup.shown (reportOf category fault) = .ok text ∧
      result = .error (.exit code) { between with
        errors := between.errors ++ String.ofList (written (Console.Layout.lines machine.width text)) }
  /-- A plain report is printed under its heading, wrapped into lines if it fits. -/
  intact : Plain fault.report.toList → ∃ printed,
    result = .error (.exit code) { between with errors := between.errors ++ String.ofList printed } ∧
    (Fits machine.width (category.announced fault.report.toList) →
      Wrapped (category.announced fault.report.toList) printed)
  /-- It fits if its characters are regular. -/
  fits : 0 < machine.width → (∀ c ∈ fault.report.toList, Regular machine.width c) →
    Fits machine.width (category.announced fault.report.toList)
  /-- Any other report is altered, also where no name of an emoji comes up in it. -/
  altered : ¬ Plain fault.report.toList →
    (∀ part, .plain part ∈ pieces (' ' :: fault.report.toList) →
      Console.Emoji.replaceNames part = part) →
    Console.Markup.shown (reportOf category fault) ≠ .ok (category.announced fault.report.toList)

/-- Each foreseen fault ends the run with the code of its category and with its report on the terminal,
unless the report means more to the console than its characters. -/
theorem reported_of_foreseen (failed : action before = .error (.fault fault) between)
    (foreseen : fault.category? = some category) :
    ∃ code, (category, code) ∈ [(.configuration, 2), (.creation, 5), (.other, 1)] ∧
      Reported machine fault category code between (reporting machine action before) := by
  have result := reporting_eq machine failed foreseen
  refine ⟨category.exitCode, by cases category <;> decide, ?_, ?_, ?_, ?_, ?_⟩
  · intro unmatched
    obtain ⟨unshown, hidden⟩ := (shown_eq_error_iff category fault).2 unmatched
    rw [hidden] at result
    exact ⟨unshown, result⟩
  · intro matched
    cases shown : Console.Markup.shown (reportOf category fault) with
    | ok text =>
      rw [shown] at result
      exact ⟨text, rfl, result⟩
    | error unshown => exact absurd ((shown_eq_error_iff category fault).1 ⟨unshown, shown⟩) matched
  · intro plain
    rw [shown_of_plain category plain] at result
    exact ⟨_, result, Console.Layout.wrapped_lines⟩
  · intro positive regular
    apply Console.Layout.fits_of_regular positive
    have space : Regular machine.width ' ' := .of_one positive (by decide) rfl
    exact List.forall_mem_append.2
      ⟨category.heading_regular positive, List.forall_mem_cons.2 ⟨space, regular⟩⟩
  · intro notPlain nameless shown
    exact notPlain (plain_of_shown nameless shown)

/-- A machine of which the terminal is all that matters. -/
def terminal : Machine where
  host := { users := [] }
  home := ""
  time := ""
  width := 80

/-- Finds a text to be no container. -/
def findNoContainer (text : String) : Running Unit := fail (.identifier (.notContainer text))

private theorem foundNoContainer (text : String) : findNoContainer text { tree := .empty } =
    .error (.fault (.identifier (.notContainer text))) { tree := .empty } := rfl

/-- What a run prints and how it ends that finds a text to be no container. -/
def refuseContainer (text : String) : EStateM.Result Ending Run Unit :=
  reporting terminal (findNoContainer text) { tree := .empty }

theorem misspelt_container_reported : ∃ printed,
    Wrapped "Error: Invalid container id: 'container_1'".toList printed ∧
    refuseContainer "container_1" =
      .error (.exit 1) { tree := .empty, errors := String.ofList printed } := by
  have report : (Fault.identifier (.notContainer "container_1")).report.toList =
      "Invalid container id: 'container_1'".toList := by decide +kernel
  have plain : Plain "Invalid container id: 'container_1'".toList := by
    refine .of_absent (by decide) ?_ (by decide)
    exact Console.Emoji.replaceNames_of_one_colon "Invalid container id".toList
      " 'container_1'".toList (by decide) (by decide) (by rintro c ⟨⟩; rfl)
  obtain ⟨code, among, reported⟩ := reported_of_foreseen terminal (foundNoContainer "container_1") rfl
  obtain rfl : code = 1 := by simpa using among
  obtain ⟨printed, ended, wrapped⟩ := reported.intact (report ▸ plain)
  rw [report] at wrapped
  have fits := reported.fits (by decide)
  rw [report] at fits
  exact ⟨printed, wrapped (fits (.of_all (by decide) (by decide))), ended⟩

/-- What is shown of a tag in the text that was found to be no container. -/
private theorem textOf_bracketed {body : List Char} (inside : IsTagBody body) (text : String)
    (quoted : (Text.quoted text).toList = "'[".toList ++ body ++ "]'".toList) :
    textOf [] (pieces (reportOf .other (.identifier (.notContainer text))).toList) =
      (textOf [] [Console.Markup.tag body, .plain ['\'']]).map
        ("Error: Invalid container id: '".toList ++ ·) := by
  have report : ' ' :: (Fault.identifier (.notContainer text)).report.toList =
      " Invalid container id: '".toList ++ '[' :: (body ++ ']' :: ['\'']) := by
    have whole : (Fault.identifier (.notContainer text)).report =
        "Invalid container id: " ++ Text.quoted text := if_pos rfl
    rw [whole, String.toList_append, quoted]
    simp
  have last : pieces ['\''] = [.plain ['\'']] := by
    rw [← List.append_nil ['\''], pieces, Console.Markup.piecesAfter_append (by decide),
      Console.Markup.piecesAfter]
    rfl
  have named : Console.Emoji.replaceNames " Invalid container id: '".toList =
      " Invalid container id: '".toList :=
    Console.Emoji.replaceNames_of_one_colon " Invalid container id".toList " '".toList
      (by decide) (by decide) (by rintro c ⟨⟩; rfl)
  rw [textOf_reportOf, report, Console.Markup.pieces_append_tag inside (by decide) (by decide), last]
  have front : Console.Markup.plainPiece " Invalid container id: '".toList =
      [.plain " Invalid container id: '".toList] := rfl
  rw [front, List.singleton_append, textOf, named]
  cases textOf [] [Console.Markup.tag body, .plain ['\'']] <;> rfl

/-- A name in brackets is not printed, and one with a slash before it is not even reported. -/
theorem bracketed_container_lost :
    refuseContainer "[x]" =
      .error (.exit 1) { tree := .empty, errors := "Error: Invalid container id: ''\n" } ∧
    ¬ Wrapped "Error: Invalid container id: '[x]'".toList "Error: Invalid container id: ''\n".toList ∧
    refuseContainer "[/x]" = .error (.fault (.markup (.unmatched "x"))) { tree := .empty } := by
  have result (text : String) := reporting_eq terminal (foundNoContainer text) rfl
  refine ⟨?_, fun wrapped => ?_, ?_⟩
  · have inside : IsTagBody ['x'] := .of_all (by decide) rfl
    have opening := textOf_bracketed inside "[x]" (by decide +kernel)
    have quote : textOf [] [Console.Markup.tag ['x'], .plain ['\'']] = .ok ['\''] := by
      have tag : Console.Markup.tag ['x'] = .opening ['x'] := by decide
      rw [tag, textOf, textOf, Console.Emoji.replaceNames_of_absent (by decide)]
      rfl
    rw [quote] at opening
    have shown : Console.Markup.shown (reportOf .other (.identifier (.notContainer "[x]"))) =
        .ok "Error: Invalid container id: ''".toList := by
      rw [Console.Markup.shown, opening]
      decide
    refine (result "[x]").trans ?_
    rw [shown]
    have lines : written (Console.Layout.lines 80 "Error: Invalid container id: ''".toList) =
        "Error: Invalid container id: ''\n".toList := by decide +kernel
    simp only [terminal, lines]
    rfl
  · have same := wrapped.visible_eq
    revert same
    decide
  · have inside : IsTagBody ['/', 'x'] := .of_all (by decide) (by decide)
    have closing := textOf_bracketed inside "[/x]" (by decide +kernel)
    have tag : Console.Markup.tag ['/', 'x'] = .closing ['x'] := by decide
    rw [tag, textOf] at closing
    refine (result "[/x]").trans ?_
    rw [Console.Markup.shown, closing]
    rfl

end ContainerLogs.CommandLine
