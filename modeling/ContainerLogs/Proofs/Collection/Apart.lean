import ContainerLogs.Proofs.Collection.Confidentiality
import ContainerLogs.Proofs.Collection.Survey
import ContainerLogs.Proofs.Text.Utf8
import ContainerLogs.Wire.Integer

/-!
Collections apart from a file. Where none of the listed files is a certain file, and nobody else
changes files, a collection never opens that file: its survey is the same whatever the file holds.
-/
namespace ContainerLogs.Collector

open FileTree (AlikeBut)

/-- No file that is listed below the roots of a collector leads to a certain file. -/
def Apart (tree : FileTree) (file : Nat) (collector : Collector) : Prop :=
  ∀ root ∈ collector.roots, ∀ names, Lists tree (collector.directoryIn root) names →
    ∀ name ∈ names,
      tree.openNode ((collector.directoryIn root).append ⟨"", [name]⟩).text ≠ .ok file

/-- No file listed in a directory leads to a certain file. -/
def listsElsewhere (tree : FileTree) (file : Nat) (directory : Path) : Bool :=
  match listFiles tree directory with
  | .ok names =>
      names.all fun name => (tree.openNode (directory.append ⟨"", [name]⟩).text).toOption ≠ some file
  | .error _ => true

private theorem listsElsewhere_iff {tree : FileTree} {file : Nat} {directory : Path} :
    listsElsewhere tree file directory = true ↔ ∀ names, Lists tree directory names →
      ∀ name ∈ names, tree.openNode (directory.append ⟨"", [name]⟩).text ≠ .ok file := by
  have leads (result : Except Refusal Nat) : result.toOption = some file ↔ result = .ok file := by
    cases result <;> simp [Except.toOption]
  simp only [← listFiles_eq_ok_iff, listsElsewhere]
  cases listFiles tree directory <;> simp [leads]

instance (tree : FileTree) (file : Nat) (collector : Collector) :
    Decidable (Apart tree file collector) :=
  decidable_of_iff (∀ root ∈ collector.roots, listsElsewhere tree file (collector.directoryIn root))
    (forall₂_congr fun _ _ => listsElsewhere_iff)

/-- The tree is as it was, and no file compared so far was that file. -/
structure Clear (tree : FileTree) (file : Nat) (around : Surroundings) : Prop where
  tree : around.tree = tree
  unseen : ∀ comparison ∈ around.comparisons, comparison.number ≠ file

variable {host : Host} {schedule : Schedule} {collector : Collector} {tree : FileTree} {file : Nat}
  {before after : Surroundings}

namespace Clear

variable (h : Clear tree file before)
include h

private theorem note {number : Nat} (other : number ≠ file) (actual expected : String) :
    Clear tree file (before.note ⟨number, actual, expected⟩) := by
  refine ⟨h.tree, fun comparison among => ?_⟩
  rcases List.mem_append.1 among with earlier | now
  · exact h.unseen comparison earlier
  · obtain rfl := List.mem_singleton.1 now
    exact other

variable (calm : schedule.Calm)
include calm

private theorem await : Clear tree file (before.await schedule) := by
  rw [calm.await]
  exact ⟨h.tree, h.unseen⟩

private theorem snapped {name : String} {number : Nat} {result : Except Refusal Bytes}
    (snapped : Snapped schedule name number before result after) : Clear tree file after := by
  have taken := take_of_snapped snapped
  have same := calm.tree_take name number before
  have seen := Snapshot.comparisons_take schedule name number before
  rw [taken] at same seen
  exact ⟨same.trans h.tree, seen ▸ h.unseen⟩

private theorem visited {path : Path} {expected : String} {fate : Fate}
    (elsewhere : tree.openNode path.text ≠ .ok file)
    (visited : Visited host schedule path expected before fate after) : Clear tree file after := by
  have waited := h.await calm
  have other {number : Nat} (opened : (before.await schedule).tree.openNode path.text = .ok number) :
      number ≠ file := by
    rintro rfl
    exact elsewhere (waited.tree ▸ opened)
  cases visited with
  | refused | irregular => exact waited
  | foreign opened => exact waited.note (other opened) _ _
  | unread opened _ _ broken => exact (waited.note (other opened) _ _).snapped calm broken
  | included opened _ _ whole => exact (waited.note (other opened) _ _).snapped calm whole

private theorem listed {directory : Path} {result : Except Refusal (List String)}
    (listed : Listed schedule directory before result after) : Clear tree file after := by
  have waited := h.await calm
  have same := calm.tree_afterListing (before.await schedule)
  have seen := (before.await schedule).comparisons_afterListing schedule
  cases listed with
  | refused => exact waited
  | disturbed lists changed | names lists changed =>
    rw [changed] at same seen
    exact ⟨same.trans waited.tree, seen ▸ waited.unseen⟩

private theorem round {owner : ExpectedOwner} {directory : Path} {names : List String}
    {question : Nat} {visits : List Visit} {ending : Option CollectFault}
    (elsewhere : ∀ name ∈ names, tree.openNode (directory.append ⟨"", [name]⟩).text ≠ .ok file)
    (round : Round host schedule owner directory question before names visits ending after) :
    Clear tree file after := by
  induction round with
  | done | unanswered => exact h
  | visit answered visited whole rest ih =>
    obtain ⟨first, others⟩ := List.forall_mem_cons.1 elsewhere
    exact ih (h.visited calm first visited) others
  | broken answered visited breaks =>
    exact h.visited calm (elsewhere _ List.mem_cons_self) visited

private theorem meets {question : Nat} {root : Path} {stop? : Option Stop}
    {ending : Option CollectFault}
    (elsewhere : ∀ names, Lists tree (collector.directoryIn root) names → ∀ name ∈ names, tree.openNode ((collector.directoryIn root).append ⟨"", [name]⟩).text ≠ .ok file)
    (met : Meets host schedule collector question before root stop? ending after) :
    Clear tree file after := by
  have waited := h.await calm
  cases met with
  | refused | missing => exact waited
  | noLogs _ listed | unlisted _ listed => exact waited.listed calm listed
  | listed _ listed round =>
    refine (waited.listed calm listed).round calm ?_ round
    cases listed with
    | names lists =>
      rw [(waited.await calm).tree] at lists
      exact elsewhere _ lists

private theorem survey {question : Nat} {roots : List Path} {stops : List Stop}
    {ending : Option CollectFault}
    (elsewhere : ∀ root ∈ roots, ∀ names, Lists tree (collector.directoryIn root) names →
      ∀ name ∈ names,
        tree.openNode ((collector.directoryIn root).append ⟨"", [name]⟩).text ≠ .ok file)
    (survey : Survey host schedule collector question before roots stops ending after) :
    Clear tree file after := by
  induction survey with
  | done => exact h
  | last met => exact h.meets calm (elsewhere _ List.mem_cons_self) met
  | next met rest ih =>
    obtain ⟨first, others⟩ := List.forall_mem_cons.1 elsewhere
    exact ih (h.meets calm first met) others

end Clear

/-- What a collection writes is told by its survey, item by item. -/
theorem produce_of_survey {queries : Nat} {stops : List Stop} {ending : Option CollectFault}
    (survey : Survey host schedule collector queries { tree := tree } collector.roots stops ending
      after) : ∃ collection, collector.produce host schedule tree queries = ended ending collection ∧
      collection.toSurroundings = after ∧ collection.items = stops.flatMap Stop.items := by
  obtain ⟨state, made, reached, gains⟩ :=
    forM_of_survey survey { tree := tree, queries := queries } rfl fun _ => rfl
  rw [produce_eq, made]
  cases ending with
  | none => exact ⟨summarized collector.container state, rfl, reached, gains.items⟩
  | some fault => exact ⟨state, rfl, reached, gains.items⟩

/-- Whatever the file holds that a collection is apart from, the collection is surveyed as if it held
what it held before. -/
theorem produce_apart (calm : schedule.Calm) (apart : Apart tree file collector) {queries : Nat}
    {other : FileTree} (alike : AlikeBut (· = file) tree other) {collection : Collection}
    (made : collector.produce host schedule other queries = .ok () collection) :
    ∃ stops around,
      Survey host schedule collector queries { tree := tree } collector.roots stops none around ∧
      collection.items = stops.flatMap Stop.items := by
  obtain ⟨stops, ending, around, survey⟩ :=
    exists_survey host schedule collector collector.roots queries { tree := tree }
  obtain ⟨first, produced, reached, items⟩ := produce_of_survey survey
  have begun : Clear tree file { tree := tree } := ⟨rfl, nofun⟩
  have clear := begun.survey calm apart survey
  have foreign : Foreign (· = file)
      (Collector.left (collector.produce host schedule tree queries)).comparisons := by
    have same : (Collector.left (collector.produce host schedule tree queries)).comparisons =
        around.comparisons := by
      rw [produced, ← reached]
      cases ending <;> rfl
    rw [same]
    exact fun comparison among secret => absurd secret (clear.unseen comparison among)
  have results := produce_alike collector host schedule queries alike foreign
  rw [produced, made] at results
  cases ending with
  | some fault => cases results
  | none =>
    cases results with
    | done states => exact ⟨stops, around, survey, states.items.trans items⟩

end ContainerLogs.Collector
