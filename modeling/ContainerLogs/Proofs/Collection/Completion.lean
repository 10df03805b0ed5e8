import ContainerLogs.Proofs.Collection.Provenance
import ContainerLogs.Proofs.FileTree.Refusals
import ContainerLogs.Proofs.Text.Utf8

/-!
When a collection comes to its end. Whatever befalls single files and the directories that hold
them, the collection goes on. It stops short at a root of which it cannot be told whether it is a
directory, because a name on the way is too long or a directory there may not be searched, and at a
file that cannot be put down, because a length does not fit its field or a place where bytes are put
aside fails.
-/
namespace ContainerLogs

namespace Collector

variable {host : Host} {schedule : Schedule} {collector : Collector} {tree : FileTree}
  {queries : Nat} {root : Path} {around : Surroundings}

/-- A collection comes to a root: these are the surroundings in which it asks whether the root is a
directory. -/
def Arrives (host : Host) (schedule : Schedule) (collector : Collector) (tree : FileTree)
    (queries : Nat) (root : Path) (around : Surroundings) : Prop :=
  ∃ later state, Reaches host schedule collector { tree := tree, queries := queries }
      (.atRoots (root :: later)) state ∧
    around = state.toSurroundings.await schedule

/-- A collection visits a file: these are the surroundings in which the file is put down. -/
def Visits (host : Host) (schedule : Schedule) (collector : Collector) (tree : FileTree)
    (queries : Nat) (visit : Visit) (around : Surroundings) : Prop :=
  ∃ root before, visit.directory = collector.below root ∧
    ComesTo host schedule collector tree queries root visit.name before ∧
    collector.owner.answer? before.queries = some visit.expected ∧
    Visited host schedule visit.path visit.expected before.toSurroundings visit.fate around

private theorem Stage.rest_of_untold {later : List Path} {state : Collection} {refusal : Refusal}
    (untold : (state.toSurroundings.await schedule).tree.isDirectory root.text = .error refusal) :
    ∃ final, (atRoots (root :: later)).rest host schedule collector state =
      .error (.root refusal) final := by
  have examined : examineRoot schedule root state.toSurroundings =
      (state.toSurroundings.await schedule, .error refusal) := by rw [← untold]; rfl
  exact ⟨_, by rw [Stage.rest, Running.forM_cons, collectRoot_of_refused examined]⟩

section Course

variable {state : Collection}

/-- A collection ends as what is to do at any stage of it does. -/
private theorem Reaches.ends {stage : Stage} {fault : CollectFault}
    (h : Reaches host schedule collector { tree := tree, queries := queries } stage state)
    (stopped : ∃ final, stage.rest host schedule collector state = .error fault final) :
    ∃ final, collector.produce host schedule tree queries = .error fault final := by
  obtain ⟨final, stopped⟩ := stopped
  rw [h.rest_eq] at stopped
  refine ⟨final, ?_⟩
  rw [produce_eq, stopped]

/-- With an owner who is known beforehand, the files of a directory are all put down, or the
collection ends at one of them. -/
private theorem files_done_or_broken (owned : ∀ query, (collector.owner.answer? query).isSome)
    {names : List String} {later : List Path}
    (h : Reaches host schedule collector { tree := tree, queries := queries }
      (.inDirectory root names later) state) :
    (∃ last, Reaches host schedule collector { tree := tree, queries := queries } (.atRoots later)
      last) ∨
    ∃ visit around fault, Visits host schedule collector tree queries visit around ∧
      visit.fault? (schedule.trouble around.requests) = some fault ∧
      ∃ final, collector.produce host schedule tree queries = .error fault final := by
  induction names generalizing state with
  | nil => exact .inl ⟨state, h.leave⟩
  | cons name names ih =>
    obtain ⟨expected, answered⟩ := Option.isSome_iff_exists.1 (owned state.queries)
    obtain ⟨fate, around, visited, ⟨-, done⟩ | ⟨fault, breaks, failed⟩⟩ :=
      turn_of_answered host schedule (collector.fileIn root name) answered
    · exact ih (h.file done)
    · have same := Visit.fault?_eq ⟨collector.directoryIn root, name, expected, fate⟩
        (schedule.trouble around.requests)
      exact .inr ⟨⟨collector.directoryIn root, name, expected, fate⟩, around, fault,
        ⟨root, state, rfl, ⟨names, later, h⟩, answered, visited⟩, same.symm.trans breaks,
        h.ends ⟨_, Stage.rest_of_fault failed⟩⟩

/-- With an owner who is known beforehand, a collection is done with all roots, or it ends at a root or
at a file that it comes to. -/
private theorem done_or_stopped (owned : ∀ query, (collector.owner.answer? query).isSome)
    {later : List Path}
    (h : Reaches host schedule collector { tree := tree, queries := queries } (.atRoots later)
      state) :
    (∃ final, collector.produce host schedule tree queries = .ok () final) ∨
    (∃ root around refusal, Arrives host schedule collector tree queries root around ∧
      around.tree.isDirectory root.text = .error refusal ∧
      ∃ final, collector.produce host schedule tree queries = .error (.root refusal) final) ∨
    ∃ visit around fault, Visits host schedule collector tree queries visit around ∧
      visit.fault? (schedule.trouble around.requests) = some fault ∧
      ∃ final, collector.produce host schedule tree queries = .error fault final := by
  induction later generalizing state with
  | nil =>
    have done := h.rest_eq
    exact .inl ⟨summarized collector.container state, by rw [produce_eq, ← done]; rfl⟩
  | cons root later ih =>
    have kind : ∃ told, examineRoot schedule root state.toSurroundings =
      (state.toSurroundings.await schedule, told) ∧
        (state.toSurroundings.await schedule).tree.isDirectory root.text = told := ⟨_, rfl, rfl⟩
    obtain ⟨refusal | _ | _, examined, told⟩ := kind
    · exact .inr (.inl ⟨root, _, refusal, ⟨later, state, h, rfl⟩, told,
        h.ends (Stage.rest_of_untold told)⟩)
    · exact ih (h.missing examined)
    · rcases listed : list schedule (collector.directoryIn root)
        (state.toSurroundings.await schedule) with ⟨between, refusal | names⟩
      · exact ih (h.unlisted examined listed)
      · rcases files_done_or_broken owned (h.listed examined listed) with ⟨last, reached⟩ | broken
        · exact ih reached
        · exact .inr (.inr broken)

end Course

/-- A collection that comes to a root of which it cannot be told whether it is a directory does not
return. -/
private theorem stops_of_arrives {refusal : Refusal}
    (arrives : Arrives host schedule collector tree queries root around)
    (untold : around.tree.isDirectory root.text = .error refusal) :
    ∃ final, collector.produce host schedule tree queries = .error (.root refusal) final := by
  obtain ⟨later, state, reached, rfl⟩ := arrives
  exact reached.ends (Stage.rest_of_untold untold)

/-- A collection that visits a file which cannot be put down does not return. -/
private theorem stops_of_visits {visit : Visit} {fault : CollectFault}
    (visits : Visits host schedule collector tree queries visit around)
    (breaks : visit.fault? (schedule.trouble around.requests) = some fault) :
    ∃ final, collector.produce host schedule tree queries = .error fault final := by
  obtain ⟨directory, name, expected, fate⟩ := visit
  obtain ⟨root, before, rfl, ⟨names, later, reached⟩, answered, visited⟩ := visits
  rw [← Visit.fault?_eq] at breaks
  have failed := collectFile_of_fault answered (visit_of_visited visited) breaks
  exact reached.ends ⟨_, Stage.rest_of_fault failed⟩

/-- The collector of those files of a container that belong to one user. -/
def forUser (roots : List Path) (container : ContainerId) (owner : String) : Collector :=
  ⟨roots, container, .fixed owner⟩

/-- A collection for one user returns exactly if it can be told of each root that it comes to whether
that is a directory, and each file that it comes to can be put down. It fails only where the way to a
root is barred, where a length does not fit its field, and where a place that bytes are put aside in
fails. -/
theorem produce_returns_iff (roots : List Path) (container : ContainerId) (owner : String)
    (host : Host) (schedule : Schedule) (tree : FileTree) (queries : Nat) :
    ((∃ collection,
        (forUser roots container owner).produce host schedule tree queries = .ok () collection) ↔
      (∀ root around,
        Arrives host schedule (forUser roots container owner) tree queries root around →
        ∃ kind, around.tree.isDirectory root.text = .ok kind) ∧
      ∀ visit around,
        Visits host schedule (forUser roots container owner) tree queries visit around →
        visit.fault? (schedule.trouble around.requests) = none) ∧
    ∀ fault collection,
      (forUser roots container owner).produce host schedule tree queries = .error fault collection →
      (∃ root around refusal,
        Arrives host schedule (forUser roots container owner) tree queries root around ∧
        around.tree.isDirectory root.text = .error refusal ∧ fault = .root refusal ∧
        (refusal = .onPath .accessDenied root.text ∨ refusal = .onPath .nameTooLong root.text)) ∨
      ∃ visit around,
        Visits host schedule (forUser roots container owner) tree queries visit around ∧
        visit.fault? (schedule.trouble around.requests) = some fault ∧
        ((∃ count unfit, visit.unfit? = some (count, unfit) ∧
            fault = .oversized visit.front unfit) ∨
          ∃ written errno, fault = .storage written (.bare errno) ∧
            Fails (schedule.trouble around.requests) errno) := by
  have begun : Reaches host schedule (forUser roots container owner)
      { tree := tree, queries := queries } (.atRoots roots) { tree := tree, queries := queries } :=
    .start
  have outcome := done_or_stopped (fun _ => rfl) begun
  constructor
  · constructor
    · rintro ⟨collection, made⟩
      constructor
      · intro root around arrives
        cases told : around.tree.isDirectory root.text with
        | ok kind => exact ⟨kind, rfl⟩
        | error refusal =>
          obtain ⟨final, stopped⟩ := stops_of_arrives arrives told
          rw [made] at stopped
          cases stopped
      · intro visit around visits
        cases ends : visit.fault? (schedule.trouble around.requests) with
        | none => rfl
        | some fault =>
          obtain ⟨final, stopped⟩ := stops_of_visits visits ends
          rw [made] at stopped
          cases stopped
    · rintro ⟨told, whole⟩
      rcases outcome with done | ⟨root, around, refusal, arrives, untold, -⟩ |
        ⟨visit, around, fault, visits, breaks, -⟩
      · exact done
      · obtain ⟨kind, told⟩ := told root around arrives
        rw [untold] at told
        cases told
      · rw [whole visit around visits] at breaks
        cases breaks
  · intro fault collection failed
    rcases outcome with ⟨final, done⟩ | ⟨root, around, refusal, arrives, untold, final, stopped⟩ |
      ⟨visit, around, fault, visits, breaks, final, stopped⟩
    · rw [done] at failed
      cases failed
    · rw [stopped] at failed
      cases failed
      exact .inl ⟨root, around, refusal, arrives, untold, rfl, FileTree.isDirectory_error untold⟩
    · rw [stopped] at failed
      cases failed
      exact .inr ⟨visit, around, visits, breaks, Visit.fault?_eq_some breaks⟩

/-- A collection fails at a root whose name is too long, whatever files there are. -/
private theorem produce_of_overlong {name : String} {entries : List (String × Nat)} {parent : Nat}
    (opens : tree.Opens tree.base entries parent) (plain : Path.PlainPart name)
    (valid : '\x00' ∉ name.toList) (long : FileTree.maxNameBytes < name.utf8ByteSize)
    (fits : ¬ FileTree.maxPathBytes < name.utf8ByteSize) (container : ContainerId)
    (owner : String) (host : Host) :
    ∃ collection, (forUser [Path.ofText name] container owner).produce host .quiet tree =
      .error (.root (.onPath .nameTooLong name)) collection := by
  have dot : name ≠ "." := by
    rintro rfl
    exact absurd long (by decide)
  have text : (Path.ofText name).text = name := by
    rw [Path.ofText_single plain dot, Path.text_single]
  have arrives : Arrives host .quiet (forUser [Path.ofText name] container owner) tree 0
      (Path.ofText name) { tree := tree, requests := 1 } :=
    ⟨[], { tree := tree }, .start, rfl⟩
  refine stops_of_arrives arrives ?_
  rw [text]
  exact FileTree.isDirectory_of_overlong opens plain valid long fits

/-- A name of so many letters. -/
def lengthy (n : Nat) : String := String.ofList (List.replicate n 'x')

private theorem size_lengthy (n : Nat) : (lengthy n).utf8ByteSize = n := by
  have letter : Text.Utf8.encodeChar 'x' = [120] := by decide
  rw [← Text.Utf8.length_encode]
  simp [lengthy, Text.Utf8.encode, Text.Utf8.encodeChars, letter, List.flatMap]

private theorem not_mem_lengthy (n : Nat) {c : Char} (other : c ≠ 'x') :
    c ∉ (lengthy n).toList := by
  simp [lengthy, other]

/-- A collection fails at a root whose name has one letter too many, even where there are no files at
all. -/
theorem overlong_root_fails :
    ∃ collection, (forUser [Path.ofText (lengthy 256)] ⟨⟨1, 1⟩, 1, 1, none⟩ "root").produce
      ⟨[(0, "root")], {}⟩ .quiet .empty =
        .error (.root (.onPath .nameTooLong (lengthy 256))) collection := by
  have size := size_lengthy 256
  have nonempty : lengthy 256 ≠ "" := by
    intro nothing
    rw [nothing] at size
    cases size
  have opens : FileTree.empty.Opens FileTree.empty.base [] 0 := ⟨⟨0, 0o755, rfl⟩, rfl⟩
  refine produce_of_overlong opens ⟨nonempty, ?_⟩ ?_ ?_ ?_ _ _ _
  · exact not_mem_lengthy 256 (by decide)
  · exact not_mem_lengthy 256 (by decide)
  · rw [size]
    decide
  · rw [size]
    decide

end Collector

end ContainerLogs
