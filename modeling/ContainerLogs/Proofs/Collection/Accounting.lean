import ContainerLogs.Proofs.Collection.Confidentiality
import ContainerLogs.Proofs.Collection.Quiescence
import ContainerLogs.Proofs.FileTree.Leads
import ContainerLogs.Proofs.Identifier

/-!
Where files are put down. In a tree that nobody changes, every regular file of a container directory
stands in exactly one list of the report, or the directory itself was skipped. There is one exception:
if a link in the directory leads through something that is no directory, the directory is taken for
one that is not there, and nothing is said of its files.
-/
namespace ContainerLogs

/-- The lists of a report that a file can stand in. -/
inductive Disposition where
  | included | mismatched | skipped
  deriving DecidableEq, Repr

/-- The paths that were put down in a list. -/
def Report.paths (report : Report) : Disposition → List String
  | .included => report.included
  | .mismatched => report.mismatches.map (·.path)
  | .skipped => report.skipped

/-- A path stands in exactly one list. -/
def Report.PutsDownOnce (report : Report) (path : String) : Prop :=
  ∃ disposition, ∀ other, path ∈ report.paths other ↔ other = disposition

/-- Every name in a directory is that of a single file. -/
def FileTree.PlainNames (tree : FileTree) : Prop :=
  ∀ number node, tree.node? number = some node → ∀ entry ∈ node.entries, Path.PlainPart entry.1

theorem FileTree.plainNames_of_forall {tree : FileTree}
    (plain : ∀ node ∈ tree.nodes, ∀ entry ∈ node.entries, Path.PlainPart entry.1) :
    tree.PlainNames :=
  fun _ node found => plain node (List.mem_of_getElem? found)

namespace Collector

def Fate.disposition : Fate → Disposition
  | .included _ => .included
  | .mismatch _ => .mismatched
  | .unopened _ | .unread _ => .skipped

def Mark.disposition : Mark → Disposition
  | .included _ => .included
  | .mismatch _ => .mismatched
  | .skipped _ => .skipped

def Mark.path : Mark → String
  | .included path | .skipped path => path
  | .mismatch found => found.path

variable {host : Host} {schedule : Schedule} {tree : FileTree} {collector : Collector}
  {owner : String} {stops : List Stop} {path : String}

/-- Marks are put down in the list that they name. -/
private theorem mem_paths_iff {queries : Nat} {collection : Collection}
    (gains : GainsFrom (.fixed owner) stops none { tree := tree, queries := queries } collection)
    (disposition : Disposition) : path ∈ collection.report.paths disposition ↔
      ∃ mark ∈ stops.flatMap Stop.marks, mark.disposition = disposition ∧ mark.path = path := by
  cases disposition with
  | included =>
    have list := gains.included
    simp only [List.nil_append] at list
    simp only [Report.paths, list, List.mem_filterMap]
    refine exists_congr fun mark => and_congr_right fun _ => ?_
    cases mark <;> simp [Mark.included?, Mark.disposition, Mark.path]
  | mismatched =>
    have list := gains.mismatches
    simp only [List.nil_append] at list
    simp only [Report.paths, list, List.mem_map, List.mem_filterMap]
    constructor
    · rintro ⟨found, ⟨mark, among, marked⟩, rfl⟩
      cases mark with
      | mismatch other =>
        cases marked
        exact ⟨_, among, rfl, rfl⟩
      | included | skipped => cases marked
    · rintro ⟨mark, among, listed, rfl⟩
      cases mark with
      | mismatch found => exact ⟨found, ⟨_, among, rfl⟩, rfl⟩
      | included | skipped => cases listed
  | skipped =>
    have list := gains.skipped
    simp only [List.nil_append] at list
    simp only [Report.paths, list, List.mem_filterMap]
    refine exists_congr fun mark => and_congr_right fun _ => ?_
    cases mark <;> simp [Mark.skipped?, Mark.disposition, Mark.path]

/-- The marks of stops are those of the files that were visited and of the directories that could
not be listed. -/
private theorem mem_marks_iff {mark : Mark} : mark ∈ stops.flatMap Stop.marks ↔
    (∃ visit ∈ stops.flatMap Stop.visits, visit.mark = mark) ∨
      ∃ directory, .unlisted directory ∈ stops ∧ .skipped directory.text = mark := by
  simp only [List.mem_flatMap]
  constructor
  · rintro ⟨stop, among, marked⟩
    cases stop with
    | missing root | noLogs root => cases marked
    | unlisted directory =>
      obtain rfl := List.mem_singleton.1 marked
      exact .inr ⟨directory, among, rfl⟩
    | listed visits =>
      obtain ⟨visit, visited, rfl⟩ := List.mem_map.1 marked
      exact .inl ⟨visit, ⟨_, among, visited⟩, rfl⟩
  · rintro (⟨visit, ⟨stop, among, visited⟩, rfl⟩ | ⟨directory, among, rfl⟩)
    · refine ⟨stop, among, ?_⟩
      cases stop with
      | listed visits => exact List.mem_map_of_mem visited
      | missing | noLogs | unlisted => cases visited
    · exact ⟨_, among, List.mem_singleton_self _⟩

section Stops

variable {roots : List Path}
  (told : roots.mapM (stopIn host schedule tree collector owner) = .ok stops)
include told

/-- A file that was visited is one that was listed below a root. -/
private theorem visit_of_stops {visit : Visit} (among : visit ∈ stops.flatMap Stop.visits) :
    ∃ root names, Lists tree (collector.directoryIn root) names ∧ visit.name ∈ names ∧
      visitIn host schedule tree owner (collector.directoryIn root) visit.name = visit := by
  obtain ⟨stop, stops, visited⟩ := List.mem_flatMap.1 among
  obtain ⟨root, -, met⟩ := (mem_of_stops told).2 stop stops
  unfold stopIn at met
  split at met
  · cases met
  · cases met
    cases visited
  · simp only at met
    split at met
    · split at met <;> cases met <;> cases visited
    · rename_i names listed
      obtain rfl := listedOf_eq_ok met
      obtain ⟨name, named, rfl⟩ := List.mem_map.1 visited
      exact ⟨root, names, listFiles_eq_ok_iff.1 listed, named, rfl⟩

private theorem visited_of_stops {visit : Visit} (among : visit ∈ stops.flatMap Stop.visits) :
    ∃ after, Visited host schedule visit.path owner { tree := tree } visit.fate after := by
  obtain ⟨root, names, -, -, made⟩ := visit_of_stops told among
  rw [← made]
  exact ⟨_, visited_visit host schedule _ owner { tree := tree }⟩

private theorem unlisted_of_stops {directory : Path} (among : .unlisted directory ∈ stops) :
    ∃ refusal, Unlisted tree directory refusal ∧ refusal.errno? ≠ some .notDirectory := by
  obtain ⟨root, -, met⟩ := (mem_of_stops told).2 _ among
  unfold stopIn at met
  split at met
  · cases met
  · cases met
  · simp only at met
    split at met
    · rename_i refusal refused
      split at met
      · cases met
      · rename_i there
        cases met
        exact ⟨refusal, listFiles_eq_error_iff.1 refused, fun absent => there (.inr absent)⟩
    · cases listedOf_eq_ok met

end Stops

theorem directoryIn_parts (collector : Collector) (root : Path) :
    (collector.directoryIn root).parts ≠ [] := by
  rw [directoryIn, Path.append_parts _ _ rfl]
  exact List.append_ne_nil_of_right_ne_nil _ (List.cons_ne_nil _ _)

theorem plainPart_below (collector : Collector) :
    ∀ name ∈ [collector.container.application.text, collector.container.text],
      Path.PlainPart name := by
  simp only [List.forall_mem_cons]
  exact ⟨collector.container.application.plainPart_text, collector.container.plainPart_text, nofun⟩

theorem directory_of_entries {path : String} {entries : List (String × Nat)}
    (read : tree.directoryEntries path = .ok entries) : ∃ number parent owner mode,
      tree.resolve path = .ok number ∧
      tree.node? number = some ⟨.directory entries parent, owner, mode⟩ := by
  unfold FileTree.directoryEntries at read
  cases resolved : tree.resolve path with
  | error refusal => simp [resolved, bind, Except.bind] at read
  | ok number =>
    simp only [resolved, bind, Except.bind] at read
    split at read
    · rename_i listed
      split at read <;> cases read
      exact ⟨number, _, _, _, rfl, listed⟩
    · cases read

theorem plainPart_of_lists (plain : tree.PlainNames) {directory : Path} {names : List String}
    {name : String} (lists : Lists tree directory names) (among : name ∈ names) :
    Path.PlainPart name := by
  obtain ⟨entries, read, -, same, -⟩ := lists
  obtain ⟨entry, found, rfl⟩ := List.mem_map.1 (same.mem_iff.1 among)
  obtain ⟨number, parent, owner, mode, -, listed⟩ := directory_of_entries read
  exact plain number _ listed entry (List.mem_filter.1 found).1

/-- In plain trees, what becomes of a file is told by the text of its path. -/
private theorem fate_eq_of_text (plain : tree.PlainNames) {roots : List Path}
    (told : roots.mapM (stopIn host schedule tree collector owner) = .ok stops)
    {visit other : Visit} (among : visit ∈ stops.flatMap Stop.visits)
    (among' : other ∈ stops.flatMap Stop.visits) (same : visit.path.text = other.path.text) :
    visit.fate = other.fate := by
  obtain ⟨root, names, lists, listed, made⟩ := visit_of_stops told among
  obtain ⟨root', names', lists', listed', made'⟩ := visit_of_stops told among'
  rw [← made, ← made'] at same ⊢
  have name := Path.last_eq_of_text (collector.directoryIn_parts root)
    (collector.directoryIn_parts root') (plainPart_of_lists plain lists listed)
    (plainPart_of_lists plain lists' listed') same
  refine fateIn_congr host schedule tree owner same ?_
  simp [Path.name, name]

/-- A path that leads to a regular file is not that of a directory that cannot be listed. -/
private theorem not_unlisted_of_file {directory : Path} {number user mode : Nat} {content : Bytes}
    (opened : tree.openNode directory.text = .ok number)
    (regular : tree.node? number = some ⟨.file content, user, mode⟩) {refusal : Refusal}
    (unlisted : Unlisted tree directory refusal) : refusal.errno? = some .notDirectory := by
  have resolved := FileTree.resolve_of_openNode opened
  have read : tree.directoryEntries directory.text =
      .error (.onPath .notDirectory directory.text) := by
    simp [FileTree.directoryEntries, resolved, regular, bind, Except.bind]
  rcases unlisted with refused | ⟨front, entry, back, entries, -⟩
  · rw [read] at refused
    cases refused
    rfl
  · rw [read] at entries
    cases entries

/-- A visit is put down under the path of its file. -/
private theorem mark_of_visited {visit : Visit} {expected : String} {before after : Surroundings}
    (visited : Visited host schedule visit.path expected before visit.fate after) :
    visit.mark.disposition = visit.fate.disposition ∧ visit.mark.path = visit.path.text := by
  unfold Visit.mark
  cases fate : visit.fate with
  | included content => exact ⟨rfl, rfl⟩
  | unopened refusal | unread refusal => exact ⟨rfl, rfl⟩
  | mismatch found =>
    rw [fate] at visited
    exact ⟨rfl, path_of_mismatch visited⟩

/-- A file that was visited stands in the list for what became of it, and in no other. -/
private theorem putsDownOnce_of_visit (plain : tree.PlainNames) (calm : schedule.Calm)
    {roots : List Path} (told : roots.mapM (stopIn host schedule tree collector owner) = .ok stops)
    {queries : Nat} {collection : Collection}
    (gains : GainsFrom (.fixed owner) stops none { tree := tree, queries := queries } collection)
    {visit : Visit} (among : visit ∈ stops.flatMap Stop.visits) :
    collection.report.PutsDownOnce visit.path.text := by
  obtain ⟨after, visited⟩ := visited_of_stops told among
  obtain ⟨disposition, path⟩ := mark_of_visited visited
  refine ⟨visit.fate.disposition, fun other => ?_⟩
  rw [mem_paths_iff gains]
  -- Another mark under the same path is that of a visit with the same fate, or of a directory that
  -- could not be listed; a path that leads to a regular file is not that of such a directory.
  constructor
  · rintro ⟨mark, markAmong, rfl, samePath⟩
    rcases mem_marks_iff.1 markAmong with ⟨other, otherAmong, rfl⟩ | ⟨directory, unlisted, rfl⟩
    · obtain ⟨after', visited'⟩ := visited_of_stops told otherAmong
      obtain ⟨disposition', path'⟩ := mark_of_visited visited'
      rw [disposition', fate_eq_of_text plain told otherAmong among (path'.symm.trans samePath)]
    · obtain ⟨refusal, unlisted, present⟩ := unlisted_of_stops told unlisted
      have text : directory.text = visit.path.text := samePath
      have still := tree_await calm { tree := tree }
      have irregular {number user mode : Nat} {content : Bytes}
          (opened : tree.openNode visit.path.text = .ok number)
          (regular : tree.node? number = some ⟨.file content, user, mode⟩) : False :=
        present (not_unlisted_of_file (text ▸ opened) regular unlisted)
      generalize visit.fate = fate at visited ⊢
      cases visited with
      | refused | irregular | unread => rfl
      | foreign opened regular | included opened regular =>
        rw [still] at opened regular
        exact (irregular opened regular).elim
  · rintro rfl
    exact ⟨visit.mark, mem_marks_iff.2 (.inl ⟨visit, among, rfl⟩), disposition, path⟩

/-- A directory that is there is listed unless it may not be read or one of its links cannot be told.
-/
private theorem present_of_unlisted {directory : Path} {number parent user mode : Nat}
    {entries : List (String × Nat)} (resolved : tree.resolve directory.text = .ok number)
    (listed : tree.node? number = some ⟨.directory entries parent, user, mode⟩) {refusal : Refusal}
    (unlisted : Unlisted tree directory refusal) : refusal.errno? ≠ some .noEntry := by
  rcases unlisted with refused | ⟨front, entry, back, -, -, -, -, present⟩
  · simp only [FileTree.directoryEntries, resolved, listed, bind, Except.bind] at refused
    split at refused <;> cases refused
    simp [Refusal.onPath, Refusal.errno?, Errno.accessDenied, Errno.noEntry]
  · exact present

/-- While nobody changes files, no file is lost without notice. For every root whose container
directory is a directory, that directory stands among what was skipped, or every regular file in it
stands in exactly one list of the report, under its path. This fails only if the listing ends at a
link that leads through something that is no directory. -/
theorem files_put_down (calm : schedule.Calm) (plain : tree.PlainNames) (collector : Collector)
    (owned : collector.owner = .fixed owner) (plainRoots : ∀ root ∈ collector.roots, root.Plain)
    (host : Host) {queries : Nat} {collection : Collection}
    (made : collector.produce host schedule tree queries = .ok () collection)
    {root : Path} (among : root ∈ collector.roots) {number parent user mode : Nat}
    {entries : List (String × Nat)}
    (resolved : tree.resolve (collector.directoryIn root).text = .ok number)
    (listed : tree.node? number = some ⟨.directory entries parent, user, mode⟩)
    (told : ∀ refusal, Unlisted tree (collector.directoryIn root) refusal →
      refusal.errno? ≠ some .notDirectory) :
    (collector.directoryIn root).text ∈ collection.report.skipped ∨
      ∀ entry ∈ entries, leadsToFile tree (collector.directoryIn root) entry = true →
        collection.report.PutsDownOnce
          ((collector.directoryIn root).append ⟨"", [entry.1]⟩).text := by
  obtain ⟨stops, stopped, gains⟩ := stops_of_produce calm owned made
  obtain ⟨stop, there, met⟩ := (mem_of_stops stopped).1 root among
  have present : tree.isDirectory root.text = .ok true :=
    FileTree.isDirectory_of_below (plainRoots root among) (List.cons_ne_nil _ _)
      collector.plainPart_below resolved
  -- The root is a directory, so what is met there is told by the listing.
  simp only [stopIn, present] at met
  split at met
  · rename_i refusal refused
    have unlisted := listFiles_eq_error_iff.1 refused
    split at met
    · rename_i absent
      rcases absent with absent | absent
      · exact absurd absent (present_of_unlisted resolved listed unlisted)
      · exact absurd absent (told refusal unlisted)
    · cases met
      left
      have marked := mem_marks_iff.2 (.inr ⟨collector.directoryIn root, there, rfl⟩)
      exact (mem_paths_iff gains .skipped).2 ⟨_, marked, rfl, rfl⟩
  · rename_i found listing
    obtain rfl := listedOf_eq_ok met
    right
    intro entry entered leads
    have visited : visitIn host schedule tree owner (collector.directoryIn root) entry.1 ∈
        stops.flatMap Stop.visits := by
      obtain ⟨entries', read, -, same, -⟩ := listFiles_eq_ok_iff.1 listing
      obtain ⟨number', parent', user', mode', resolved', listed'⟩ := directory_of_entries read
      obtain rfl : number = number' := by simpa [resolved] using resolved'
      obtain ⟨⟨rfl, -⟩, -⟩ : (entries = entries' ∧ parent = parent') ∧ user = user' ∧ mode = mode' := by
        simpa [listed] using listed'
      have found' := same.mem_iff.2 (List.mem_map_of_mem (List.mem_filter.2 ⟨entered, leads⟩))
      exact List.mem_flatMap.2 ⟨_, there, List.mem_map_of_mem found'⟩
    exact putsDownOnce_of_visit plain calm stopped gains visited

/-- A tree with one log file and a link beside it. -/
def linkedTree (target : String) : FileTree where
  nodes := [
    ⟨.directory [("logs", 1)] 0, 0, 0o755⟩,
    ⟨.directory [("application_1_0002", 2)] 0, 0, 0o755⟩,
    ⟨.directory [("container_1_0002_03_000004", 3)] 1, 0, 0o755⟩,
    ⟨.directory [("stdout", 4), ("link", 5)] 2, 0, 0o755⟩,
    ⟨.file [104, 105], 0, 0o644⟩,
    ⟨.symlink target, 0, 0o777⟩]
  base := 0

theorem returned_of_shown (result : EStateM.Result CollectFault Collection Unit)
    (done : (shown result).fault? = none) : result = .ok () (left result) := by
  cases result with
  | ok _ collection => rfl
  | error fault collection => cases done

/-- Beside a link to nothing, the log file is put down. -/
theorem put_down_beside_dangling :
    ∃ collection, keyCollector.produce ⟨[(0, "root")], {}⟩ .quiet (linkedTree "none") =
      .ok () collection ∧
      ((keyCollector.directoryIn ⟨"/", ["logs"]⟩).text ∈ collection.report.skipped ∨
        ∀ entry ∈ [("stdout", 4), ("link", 5)],
          leadsToFile (linkedTree "none") (keyCollector.directoryIn ⟨"/", ["logs"]⟩) entry = true →
          collection.report.PutsDownOnce
            ((keyCollector.directoryIn ⟨"/", ["logs"]⟩).append ⟨"", [entry.1]⟩).text) := by
  have made := returned_of_shown (keyCollector.produce ⟨[(0, "root")], {}⟩ .quiet (linkedTree "none"))
    (by decide +kernel)
  have plainRoots : ∀ root ∈ keyCollector.roots, root.Plain :=
    List.forall_mem_singleton.2 ⟨.inr (.inl rfl), by decide⟩
  have listing : (listFiles (linkedTree "none") (keyCollector.directoryIn ⟨"/", ["logs"]⟩)).toOption =
      some ["stdout"] := by decide +kernel
  have listed : (linkedTree "none").node? 3 =
      some ⟨.directory [("stdout", 4), ("link", 5)] 2, 0, 0o755⟩ := rfl
  refine ⟨_, made, ?_⟩
  refine files_put_down .quiet (FileTree.plainNames_of_forall (by decide)) keyCollector rfl plainRoots _
    made List.mem_cons_self rfl listed ?_
  intro refusal unlisted
  rw [listFiles_eq_error_iff.2 unlisted] at listing
  cases listing

/-- Beside a link that leads through the log file, nothing is said of the log file, which is there. -/
theorem lost_beside_link_through_file :
    leadsToFile (linkedTree "stdout/x") (keyCollector.directoryIn ⟨"/", ["logs"]⟩) ("stdout", 4) =
      true ∧
    ∃ collection, keyCollector.produce ⟨[(0, "root")], {}⟩ .quiet (linkedTree "stdout/x") =
      .ok () collection ∧ collection.report = {} := by
  have run : (shown (keyCollector.produce ⟨[(0, "root")], {}⟩ .quiet
      (linkedTree "stdout/x"))).fault? = none ∧
        (left (keyCollector.produce ⟨[(0, "root")], {}⟩ .quiet (linkedTree "stdout/x"))).report =
          {} := by decide +kernel
  exact ⟨rfl, _, returned_of_shown _ run.1, run.2⟩

end Collector

end ContainerLogs
