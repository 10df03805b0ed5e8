import ContainerLogs.Archive.Location
import ContainerLogs.Proofs.Path

/-!
Where the archives of applications lie. Owner, application and node are joined to the archive directory
as paths, not as names: where they are names, each archive has its own place below the directory. A text
that is anchored leads out of the directory, as does one that steps up, and one that holds no name or
several leads to a place of other components.
-/
namespace ContainerLogs

namespace Path

/-- A text that is one component of a path and leads one level down. -/
def IsName (text : String) : Prop := PlainPart text ∧ text ≠ "." ∧ text ≠ ".."

instance (text : String) : Decidable (IsName text) :=
  inferInstanceAs (Decidable (PlainPart text ∧ text ≠ "." ∧ text ≠ ".."))

/-- A path that continues a directory's by at least one component and never steps up. -/
def Below (base path : Path) : Prop :=
  ∃ names, names ≠ [] ∧ ".." ∉ names ∧ path = base.append ⟨"", names⟩

private theorem append_append (base : Path) (names more : List String) :
    (base.append ⟨"", names⟩).append ⟨"", more⟩ = base.append ⟨"", names ++ more⟩ := by
  simp [append]

private theorem append_inj {base : Path} {names others : List String} :
    base.append ⟨"", names⟩ = base.append ⟨"", others⟩ ↔ names = others := by
  simp [append]

private theorem below_append_iff {base : Path} {names : List String} :
    base.Below (base.append ⟨"", names⟩) ↔ names ≠ [] ∧ ".." ∉ names := by
  constructor
  · rintro ⟨others, hasNames, level, same⟩
    obtain rfl := append_inj.1 same
    exact ⟨hasNames, level⟩
  · rintro ⟨hasNames, level⟩
    exact ⟨names, hasNames, level, rfl⟩

private theorem child_of_relative {text : String} (relative : (ofText text).anchor = "")
    (path : Path) :
    path.child text = path.append ⟨"", (ofText text).parts⟩ := by
  rw [child, ← relative]

private theorem IsName.child {text : String} (name : IsName text) (path : Path) :
    path.child text = path.append ⟨"", [text]⟩ := by
  rw [Path.child, ofText_single name.1 name.2.1]

/-- A path as it is read from texts: no component is a dot. -/
structure Tidy (path : Path) : Prop extends path.Plain where
  dot : "." ∉ path.parts

theorem tidy_ofText (text : String) : (ofText text).Tidy where
  toPlain := plain_ofText text
  dot among := by simpa using (List.mem_filter.1 among).2

namespace Tidy

variable {path back : Path}

private theorem append (h : path.Tidy) (h' : back.Tidy) : (path.append back).Tidy := by
  unfold Path.append
  split
  · constructor
    · constructor
      · exact h.anchor
      · intro part among
        exact (List.mem_append.1 among).elim (h.parts part) (h'.parts part)
    · intro among
      exact (List.mem_append.1 among).elim h.dot h'.dot
  · exact h'

/-- What is left of such a path without its first component. -/
private theorem rest {anchor first : String} {others : List String}
    (h : Tidy ⟨anchor, first :: others⟩) :
    Tidy ⟨"", others⟩ where
  anchor := .inl rfl
  parts part among := h.parts part (List.mem_cons_of_mem first among)
  dot among := h.dot (List.mem_cons_of_mem first among)

private theorem child (h : path.Tidy) (text : String) :
    (path.child text).Tidy := h.append (tidy_ofText text)

/-- Such a path is read back from its text. -/
theorem ofText_text (h : path.Tidy) : ofText path.text = path := by
  have kept : ((path.parts.map String.toList).map String.ofList).filter
      (fun part => part ≠ "" ∧ part ≠ ".") = path.parts := by
    have same : (path.parts.map String.toList).map String.ofList = path.parts := by simp
    rw [same, List.filter_eq_self.2]
    intro part among
    have dot : part ≠ "." := fun same => h.dot (same ▸ among)
    simpa using ⟨(h.parts part among).1, dot⟩
  rcases eq_or_ne path.parts [] with noParts | hasParts
  · obtain ⟨anchor, parts⟩ := path
    obtain rfl : parts = [] := noParts
    rcases h.anchor with rfl | rfl | rfl <;> decide
  · obtain ⟨c, rest, joined, other⟩ := h.head_joined hasParts
    have split := h.splitOn_joined hasParts
    rw [joined] at split
    have anchored : anchorOf path.text.toList = path.anchor := by
      rw [Plain.toList_text hasParts, joined]
      rcases h.anchor with anchor | anchor | anchor <;> rw [anchor] <;> simp [anchorOf, other]
    have parted : partsOf path.text.toList = path.parts := by
      have slash (back : List Char) : List.splitOn '/' ('/' :: back) =
          [] :: List.splitOn '/' back := by
        simp [List.splitOn_cons_eq_if_modifyHead]
      have single : "/".toList = ['/'] := rfl
      have double : "//".toList = ['/', '/'] := rfl
      rw [Plain.toList_text hasParts, joined, partsOf, ← kept]
      rcases h.anchor with anchor | anchor | anchor <;> rw [anchor]
      · rw [String.toList_empty, List.nil_append, split]
      · rw [single, List.singleton_append, slash, split]
        rfl
      · rw [double, List.cons_append, List.singleton_append, slash, slash, split]
        rfl
    rw [ofText, anchored, parted]

theorem expandHome (h : path.Tidy) {homes : Homes} {base : Path}
    (expanded : path.expandHome homes = .ok base) : base.Tidy := by
  obtain ⟨anchor, parts⟩ := path
  unfold Path.expandHome at expanded
  split at expanded
  · rename_i first rest anchored parted
    cases anchored
    cases parted
    split at expanded
    · split at expanded
      · cases expanded
      split at expanded
      · cases expanded
      · split at expanded
        · cases expanded
        · cases expanded
          exact (tidy_ofText _).append h.rest
    · cases expanded
      exact h
  · cases expanded
    exact h

/-- A component of such a path is a name unless it steps up. -/
private theorem isName (h : path.Tidy) {part : String} (among : part ∈ path.parts)
    (level : part ≠ "..") :
    IsName part :=
  ⟨h.parts part among, fun dot => h.dot (dot ▸ among), level⟩

end Tidy

end Path

/-- Where an archive goes from a directory: the texts are joined to its path one by one. -/
def Path.archiveOf (base : Path) (owner application node : String) : Path :=
  (((base.child owner).child "logs").child application).child node

open ContainerLogs.Path (IsName)

namespace AggregationSettings

variable {settings : AggregationSettings} {homes : Path.Homes} {owner application node : String} {path : Path}

/-- The node that an archive is of: the configured one where none is given. -/
def nodeOf (settings : AggregationSettings) (node : String) : String :=
  if node = "" then settings.nodeId else node

theorem archivePath_eq_ok_iff : settings.archivePath homes owner application node = .ok path ↔
    settings.archiveDir ≠ "" ∧ settings.nodeOf node ≠ "" ∧ ∃ base,
      (Path.ofText settings.archiveDir).expandHome homes = .ok base ∧
      path = base.archiveOf owner application (settings.nodeOf node) := by
  change (if settings.archiveDir = "" then _ else if settings.nodeOf node = "" then _ else _) = _ ↔ _
  constructor
  · intro located
    split at located
    · cases located
    rename_i configured
    split at located
    · cases located
    rename_i placed
    split at located
    · cases located
    · rename_i base expanded
      cases located
      exact ⟨configured, placed, base, expanded, rfl⟩
  · rintro ⟨configured, placed, base, expanded, rfl⟩
    rw [if_neg configured, if_neg placed, expanded]
    rfl

end AggregationSettings

namespace Path

variable {base : Path} {owner application node : String}

private theorem isName_logs : IsName "logs" := by decide

/-- Names are the components of the place that they are joined to. -/
private theorem archiveOf_names (names : ∀ text ∈ [owner, application, node], IsName text)
    (base : Path) :
    base.archiveOf owner application node =
      base.append ⟨"", [owner, "logs", application, node]⟩ := by
  simp only [List.forall_mem_cons] at names
  obtain ⟨owned, applied, placed, -⟩ := names
  rw [archiveOf, owned.child, isName_logs.child, applied.child, placed.child, append_append, append_append,
    append_append]
  rfl

/-- Texts without an anchor continue the directory's path by their own components. -/
private theorem archiveOf_relative
    (relative : ∀ text ∈ [owner, application, node], (ofText text).anchor = "") (base : Path) :
    base.archiveOf owner application node =
      base.append ⟨"", (ofText owner).parts ++ "logs" :: (ofText application).parts ++
        (ofText node).parts⟩ := by
  simp only [List.forall_mem_cons] at relative
  obtain ⟨owned, applied, placed, -⟩ := relative
  rw [archiveOf, child_of_relative owned, isName_logs.child, child_of_relative applied, child_of_relative placed,
    append_append, append_append, append_append]
  simp

theorem Tidy.archiveOf (tidy : base.Tidy) (owner application node : String) :
    (base.archiveOf owner application node).Tidy :=
  (((tidy.child owner).child "logs").child application).child node

/-- The components of such a place are the texts exactly if these are names. -/
private theorem archiveOf_eq_iff (tidy : base.Tidy) :
    base.Below (base.archiveOf owner application node) ∧
        base.archiveOf owner application node =
          base.append ⟨"", [owner, "logs", application, node]⟩ ↔
      ∀ text ∈ [owner, application, node], IsName text := by
  constructor
  · rintro ⟨below, path_eq⟩
    have whole := tidy.archiveOf owner application node
    rw [path_eq, below_append_iff] at below
    have named : ∀ text ∈ [owner, "logs", application, node], IsName text := by
      intro text among
      apply whole.isName
      · rw [path_eq, append_parts _ _ rfl]
        exact List.mem_append_right _ among
      · rintro rfl
        exact below.2 among
    simp only [List.forall_mem_cons] at named ⊢
    obtain ⟨owned, -, rest⟩ := named
    exact ⟨owned, rest⟩
  · intro names
    rw [archiveOf_names names, below_append_iff]
    simp only [List.forall_mem_cons] at names
    obtain ⟨owned, applied, placed, -⟩ := names
    have level {text : String} (name : IsName text) : ".." ≠ text := name.2.2.symm
    constructor
    · simp [level owned, level applied, level placed]
    · rfl

/-- Texts without an anchor stay below the directory exactly if none of them steps up. -/
private theorem below_archiveOf_iff
    (relative : ∀ text ∈ [owner, application, node], (ofText text).anchor = "") :
    base.Below (base.archiveOf owner application node) ↔
      ∀ text ∈ [owner, application, node], ".." ∉ (ofText text).parts := by
  rw [archiveOf_relative relative, below_append_iff]
  simp [not_or]

/-- The text of such a place tells the names that it is made of. -/
private theorem archiveOf_injective (tidy : base.Tidy) {owner' application' node' : String}
    (names : ∀ text ∈ [owner, application, node], IsName text)
    (names' : ∀ text ∈ [owner', application', node'], IsName text)
    (same : (base.archiveOf owner application node).text =
      (base.archiveOf owner' application' node').text) :
    owner = owner' ∧ application = application' ∧ node = node' := by
  have plain := (tidy.archiveOf owner application node).toPlain
  have plain' := (tidy.archiveOf owner' application' node').toPlain
  rw [archiveOf_names names] at same plain
  rw [archiveOf_names names'] at same plain'
  have steps := congrArg (fun text : String => FileTree.steps text.toList) same
  simp only [plain.steps_text (by simp), plain'.steps_text (by simp), append_parts,
    List.append_cancel_left_eq, List.cons.injEq, true_and, and_true] at steps
  exact steps

end Path

namespace AggregationSettings

variable {settings : AggregationSettings} {homes : Path.Homes} {owner application node : String} {path : Path}

/-- The place of an archive is the directory's with owner, `logs`, application and node as its further
components exactly if the three are names, and different names have different places. Without anchors
it stays below the directory exactly if no text steps up. -/
theorem archivePath_below_iff
    (located : settings.archivePath homes owner application node = .ok path) : ∃ base,
      (Path.ofText settings.archiveDir).expandHome homes = .ok base ∧
      (base.Below path ∧
          path = base.append ⟨"", [owner, "logs", application, settings.nodeOf node]⟩ ↔
        ∀ text ∈ [owner, application, settings.nodeOf node], IsName text) ∧
      ((∀ text ∈ [owner, application, settings.nodeOf node], (Path.ofText text).anchor = "") →
        (base.Below path ↔ ∀ text ∈ [owner, application, settings.nodeOf node],
          ".." ∉ (Path.ofText text).parts)) ∧
      ∀ owner' application' node' path',
        settings.archivePath homes owner' application' node' = .ok path' →
        (∀ text ∈ [owner, application, settings.nodeOf node], IsName text) →
        (∀ text ∈ [owner', application', settings.nodeOf node'], IsName text) →
        path.text = path'.text →
        owner = owner' ∧ application = application' ∧ settings.nodeOf node = settings.nodeOf node' := by
  obtain ⟨-, -, base, expanded, rfl⟩ := archivePath_eq_ok_iff.1 located
  have tidy := (Path.tidy_ofText settings.archiveDir).expandHome expanded
  refine ⟨base, expanded, Path.archiveOf_eq_iff tidy, Path.below_archiveOf_iff, ?_⟩
  intro owner' application' node' path' located' names names' same
  obtain ⟨-, -, base', expanded', rfl⟩ := archivePath_eq_ok_iff.1 located'
  rw [expanded] at expanded'
  cases expanded'
  exact Path.archiveOf_injective tidy names names' same

/-- One directory for the archives of all owners. -/
def shared : AggregationSettings := { archiveDir := "/srv/archive", nodeId := "n1" }

/-- The same directory, by way of another user's home. -/
def homely : AggregationSettings := { archiveDir := "~backup/archive", nodeId := "n1" }

def backupHomes : Path.Homes where
  own := "/root"
  others name := if name = "backup" then some "/srv/" else none

theorem archivePath_of_name : (⟨"/", ["srv", "archive"]⟩ : Path).Below
    ⟨"/", ["srv", "archive", "alice", "logs", "application_1_0001", "n1"]⟩ := by
  have located : homely.archivePath backupHomes "alice" "application_1_0001" "" =
      .ok ⟨"/", ["srv", "archive", "alice", "logs", "application_1_0001", "n1"]⟩ := by decide +kernel
  obtain ⟨base, expanded, names, -⟩ := archivePath_below_iff located
  have directory : (Path.ofText homely.archiveDir).expandHome backupHomes =
      .ok ⟨"/", ["srv", "archive"]⟩ := by decide +kernel
  rw [directory] at expanded
  cases expanded
  exact (names.2 (by decide +kernel)).1

/-- An owner with an anchor leads out of the directory, and so does one that steps up; two owners without
a component share a place. -/
theorem archivePath_of_other_texts :
    (∃ path, shared.archivePath backupHomes "/etc" "application_1_0001" "" = .ok path ∧
      ¬ (⟨"/", ["srv", "archive"]⟩ : Path).Below path) ∧
    (∃ path, shared.archivePath backupHomes "../../etc" "application_1_0001" "" = .ok path ∧
      ¬ (⟨"/", ["srv", "archive"]⟩ : Path).Below path) ∧
    shared.archivePath backupHomes "" "application_1_0001" "" =
      shared.archivePath backupHomes "." "application_1_0001" "" := by
  constructor
  · use ⟨"/", ["etc", "logs", "application_1_0001", "n1"]⟩
    constructor
    · decide +kernel
    · rintro ⟨names, -, -, same⟩
      simp [Path.append] at same
  constructor
  · use ⟨"/", ["srv", "archive", "..", "..", "etc", "logs", "application_1_0001", "n1"]⟩
    constructor
    · decide +kernel
    · rintro ⟨names, -, level, same⟩
      simp only [Path.append, if_pos, Path.mk.injEq, List.cons_append, List.nil_append,
        List.cons.injEq, true_and] at same
      rw [← same] at level
      exact level List.mem_cons_self
  · decide +kernel

end AggregationSettings

end ContainerLogs
