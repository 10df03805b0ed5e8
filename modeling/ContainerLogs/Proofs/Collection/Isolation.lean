import ContainerLogs.Proofs.Collection.Accounting
import ContainerLogs.Proofs.FileTree.Addition

/-!
What one more entry in a directory changes for a collection. While it can be told whether the entry
is a regular file, nothing changes but what the entry itself comes to: the stops are the same at every
root, apart from the visit of the new name. An entry of which that cannot be told changes what is met
at the whole directory, and one in whose place a length stands that does not fit ends the collection.
-/
namespace ContainerLogs.Collector

/-- Whether a name below a path is a name of a certain directory. -/
def isEntryOf (tree : FileTree) (directory : Nat) (sought : String) (above : Path) (name : String) :
    Bool :=
  (tree.resolve above.text).toOption = some directory ∧ name = sought

/-- The visits of a stop but for those to one entry of a directory. -/
def Stop.without (tree : FileTree) (directory : Nat) (sought : String) : Stop → Stop
  | .listed visits =>
      .listed (visits.filter fun visit => ! isEntryOf tree directory sought visit.directory visit.name)
  | stop => stop

/-- Of fewer files something does not fit if it did not fit of all of them, but for what does not fit of
the files left out. -/
private theorem listedOf_without (tree : FileTree) (directory : Nat) (sought : String)
    (visits : List Visit) :
    listedOf (visits.filter fun visit => ! isEntryOf tree directory sought visit.directory visit.name) =
      (listedOf visits).map (Stop.without tree directory sought) ∨
    ∃ fault, listedOf visits = .error fault ∧ ∃ visit ∈ visits,
      isEntryOf tree directory sought visit.directory visit.name = true ∧
      visit.handed? none = some fault := by
  unfold listedOf
  cases first : visits.findSome? (·.handed? none) with
  | none =>
    left
    rw [List.findSome?_eq_none_iff] at first
    rw [List.findSome?_eq_none_iff.2 fun visit among => first visit (List.mem_filter.1 among).1]
    rfl
  | some fault =>
    obtain ⟨front, visit, back, rfl, unfit, fits⟩ := List.findSome?_eq_some_iff.1 first
    cases own : isEntryOf tree directory sought visit.directory visit.name with
    | true => exact .inr ⟨fault, rfl, visit, by simp, own, unfit⟩
    | false =>
      left
      have again : ((front ++ visit :: back).filter fun visit =>
          ! isEntryOf tree directory sought visit.directory visit.name).findSome? (·.handed? none) =
            some fault := by
        rw [List.filter_append, List.filter_cons_of_pos (by rw [own]; rfl)]
        exact List.findSome?_eq_some_iff.2 ⟨_, visit, _, rfl, unfit, fun visit among =>
          fits visit (List.mem_filter.1 among).1⟩
      rw [again]
      rfl

section Kept

variable {before after : FileTree} {above : Path} {entries : List (String × Nat)}
  (keep : String → Bool)
  (read : before.directoryEntries above.text = .ok (entries.filter (keep ·.1)))
  (read' : after.directoryEntries above.text = .ok entries)
  (alike : ∀ entry ∈ entries.filter (keep ·.1),
    leadsToFile after above entry = leadsToFile before above entry ∧
      ∀ refusal, Untold after above entry refusal ↔ Untold before above entry refusal)
include read read' alike

/-- Of fewer entries, fewer files are listed. -/
private theorem lists_of_kept {names : List String} (lists : Lists after above names) :
    Lists before above (names.filter keep) := by
  obtain ⟨entries', reads, told, same, sorted⟩ := lists
  obtain rfl : entries = entries' := by simpa [read'] using reads
  refine ⟨_, read, ?_, ?_, sorted.filter _⟩
  · intro entry among refusal untold
    exact told entry (List.mem_filter.1 among).1 refusal (((alike entry among).2 refusal).2 untold)
  · refine (same.filter keep).trans (.of_eq ?_)
    calc ((entries.filter (leadsToFile after above)).map (·.1)).filter keep
        = ((entries.filter (keep ·.1)).filter (leadsToFile after above)).map (·.1) := by
          rw [List.filter_map, List.filter_filter, List.filter_filter]
          congr 2
          funext entry
          exact Bool.and_comm _ _
      _ = ((entries.filter (keep ·.1)).filter (leadsToFile before above)).map (·.1) := by
          rw [List.filter_congr fun entry among => (alike entry among).1]

/-- The first link that cannot be told is the first of fewer entries too, if it is among them. -/
private theorem unlisted_of_kept {refusal : Refusal}
    (kept : ∀ entry ∈ entries, Untold after above entry refusal → keep entry.1 = true)
    (unlisted : Unlisted after above refusal) : Unlisted before above refusal := by
  rcases unlisted with refused | ⟨front, entry, back, reads, told, untold⟩
  · rw [read'] at refused
    cases refused
  · obtain rfl : entries = front ++ entry :: back := by simpa [read'] using reads
    have here := kept entry (by simp) untold
    have split : (front ++ entry :: back).filter (keep ·.1) =
        front.filter (keep ·.1) ++ entry :: back.filter (keep ·.1) := by
      simp [here]
    rw [split] at read alike
    refine .inr ⟨_, entry, _, read, ?_, ((alike entry (by simp)).2 refusal).1 untold⟩
    intro earlier among other untold
    exact told earlier (List.mem_filter.1 among).1 other
      (((alike earlier (List.mem_append_left _ among)).2 other).2 untold)

end Kept

open FileTree (Adds)

section Entry

variable {before after : FileTree} {directory : Nat} {added : String × Nat}
  (adds : Adds directory added before after) (closed : before.Closed)
  (unlinked : before.Unlinked directory added.1) {above : Path} (plain : above.Plain)
  (hasParts : above.parts ≠ []) (unsought : ¬ before.LooksFor directory added.1 above.text)

section Name

variable {number : Nat} (resolved : before.resolve above.text = .ok number) {name : String}
  (plainName : Path.PlainPart name) (other : ¬ (number = directory ∧ name = added.1))
include unlinked plain hasParts unsought resolved plainName other

/-- The path of another file does not come to the new entry. -/
private theorem not_looksFor_file :
    ¬ before.LooksFor directory added.1 (above.append ⟨"", [name]⟩).text := by
  intro seeks
  rcases seeks.above plain unlinked hasParts plainName resolved with early | own
  · exact unsought early
  · exact other own

include adds closed

/-- The same becomes of another file. -/
private theorem fateIn_of_adds (host : Host) {schedule : Schedule} (calm : schedule.Calm)
    (expected : String) : fateIn host schedule after (above.append ⟨"", [name]⟩) expected =
      fateIn host schedule before (above.append ⟨"", [name]⟩) expected := by
  have aside := not_looksFor_file unlinked plain hasParts unsought resolved plainName other
  have visited :=
    visited_visit host schedule (above.append ⟨"", [name]⟩) expected { tree := before }
  refine (fate_of_visited calm visited (adds.openNode closed aside) ?_).symm
  intro opened opens content owner mode
  obtain ⟨⟨kind, owner', mode'⟩, found⟩ := Option.isSome_iff_exists.1
    (closed.resolve (FileTree.resolve_of_openNode opens))
  obtain ⟨node, found', kin, -⟩ := adds.node found
  cases kind with
  | directory entries parent =>
    obtain ⟨entries', listed, -⟩ := adds.listed found
    simp [found, listed]
  | file | symlink | fifo => rw [adds.kept found rfl, found]

/-- It is told of another entry what was told before. -/
private theorem told_of_adds {next : Nat} (there : before.Has next) :
    leadsToFile after above (name, next) = leadsToFile before above (name, next) ∧
      ∀ refusal, Untold after above (name, next) refusal ↔
        Untold before above (name, next) refusal := by
  have aside := not_looksFor_file unlinked plain hasParts unsought resolved plainName other
  rw [Path.text_append_single hasParts] at aside
  have stats := adds.stat closed aside
  obtain ⟨⟨kind, owner, mode⟩, found⟩ := Option.isSome_iff_exists.1 there
  cases kind with
  | directory entries parent =>
    obtain ⟨entries', found', -⟩ := adds.listed found
    simp [leadsToFile, Untold, found, found']
  | file | fifo => simp [leadsToFile, Untold, found, adds.kept found rfl]
  | symlink target =>
    simp only [leadsToFile, Untold, found, adds.kept found rfl]
    generalize before.stat (above.text ++ "/" ++ name) = left,
      after.stat (above.text ++ "/" ++ name) = right at stats
    cases stats with
    | refused refusal => exact ⟨rfl, fun _ => Iff.rfl⟩
    | done kin => exact ⟨kin.isFile, fun _ => by simp⟩

end Name

section Listing

variable (plainNames : before.PlainNames)
  (told : before.resolve above.text = .ok directory → ∀ refusal, ¬ Untold after above added refusal)
include adds closed unlinked plain hasParts unsought plainNames told

/-- The same regular files are listed, and maybe the new entry. -/
private theorem listFiles_of_adds : listFiles before above = (listFiles after above).map
    (·.filter fun name => ! isEntryOf before directory added.1 above name) := by
  cases read : before.directoryEntries above.text with
  | error refusal =>
    have read' := adds.directoryEntries_error closed unsought read
    rw [listFiles_of_unlisted (.inl read), listFiles_of_unlisted (.inl read')]
    rfl
  | ok entries =>
    obtain ⟨number, entries', resolved, read', same, sole⟩ :=
      adds.directoryEntries_ok closed unsought read
    obtain ⟨listed, parent, owner, mode, resolved', found⟩ := directory_of_entries read
    obtain rfl : number = listed := by simpa [resolved] using resolved'
    have kept (name : String) : (! isEntryOf before directory added.1 above name) =
        decide (¬ (number = directory ∧ name = added.1)) := by
      simp [isEntryOf, resolved, Except.toOption]
    have alike : ∀ entry ∈ entries, leadsToFile after above entry = leadsToFile before above entry ∧
        ∀ refusal, Untold after above entry refusal ↔ Untold before above entry refusal := by
      intro entry among
      have other : ¬ (number = directory ∧ entry.1 = added.1) := by
        rw [same] at among
        exact of_decide_eq_true (List.mem_filter.1 among).2
      exact told_of_adds adds closed unlinked plain hasParts unsought resolved
        (plainNames _ _ found entry among) other (closed.entry found among)
    subst same
    simp only [kept]
    -- The first link that cannot be told is not the new entry, so it was the first before as well.
    let keep (name : String) : Bool := ¬ (number = directory ∧ name = added.1)
    rcases lists_or_unlisted after above with ⟨names, lists⟩ | ⟨refusal, unlisted⟩
    · have lists' := lists_of_kept keep read read' alike lists
      rw [listFiles_of_lists lists, listFiles_of_lists lists']
      rfl
    · have other : ∀ entry ∈ entries', Untold after above entry refusal → keep entry.1 = true := by
        intro entry among untold
        refine decide_eq_true fun ⟨here, named⟩ => ?_
        subst here
        rw [sole entry among rfl named] at untold
        exact told resolved refusal untold
      have unlisted' := unlisted_of_kept keep read read' alike other unlisted
      rw [listFiles_of_unlisted unlisted, listFiles_of_unlisted unlisted']
      rfl

end Listing

end Entry

section Collections

variable {before after : FileTree} {directory : Nat} {added : String × Nat}
  (adds : Adds directory added before after) (closed : before.Closed)
  (unlinked : before.Unlinked directory added.1) (plainNames : before.PlainNames)
  {schedule : Schedule} (calm : schedule.Calm) (host : Host) (collector : Collector)
include adds closed unlinked plainNames calm

/-- At a root the same is met, apart from a visit of the new entry, unless that does not fit. -/
private theorem stopIn_of_adds (owner : String) {root : Path} (plain : root.Plain)
    (aside : ¬ before.LooksFor directory added.1 (collector.directoryIn root).text)
    (told : before.resolve (collector.directoryIn root).text = .ok directory →
      ∀ refusal, ¬ Untold after (collector.directoryIn root) added refusal) :
    stopIn host schedule before collector owner root =
      (stopIn host schedule after collector owner root).map
        (Stop.without before directory added.1) ∨
    ∃ fault, stopIn host schedule after collector owner root = .error fault ∧
      before.resolve (collector.directoryIn root).text = .ok directory ∧
      (visitIn host schedule after owner (collector.directoryIn root) added.1).handed? none =
        some fault := by
  have plainAbove : (collector.directoryIn root).Plain := plain.append collector.plainPart_below
  have below := collector.directoryIn_parts root
  have listed := listFiles_of_adds adds closed unlinked plainAbove below aside plainNames told
  have asideRoot : ¬ before.LooksFor directory added.1 root.text :=
    fun seeks => aside (seeks.below plain collector.plainPart_below)
  unfold stopIn
  rw [adds.isDirectory closed asideRoot]
  rcases before.isDirectory root.text with refusal | present
  · exact .inl rfl
  cases present with
  | false => exact .inl rfl
  | true =>
    cases listing : listFiles after (collector.directoryIn root) with
    | error refusal =>
      rw [listing] at listed
      replace listed : listFiles before (collector.directoryIn root) = .error refusal := listed
      simp only [listing, listed]
      left
      split <;> rfl
    | ok names =>
      rw [listing] at listed
      replace listed : listFiles before (collector.directoryIn root) = .ok _ := listed
      simp only [listing, listed]
      -- The visits before are those after, apart from those of the new entry.
      have visits : (names.filter fun name =>
          ! isEntryOf before directory added.1 (collector.directoryIn root) name).map
            (visitIn host schedule before owner (collector.directoryIn root)) =
          (names.map (visitIn host schedule after owner (collector.directoryIn root))).filter
            fun visit => ! isEntryOf before directory added.1 visit.directory visit.name := by
        rw [List.filter_map]
        refine List.map_congr_left fun name among => ?_
        have lists := listFiles_eq_ok_iff.1 listed
        obtain ⟨entries, read, -⟩ := id lists
        obtain ⟨number, _, _, _, resolved, -⟩ := directory_of_entries read
        have other : ¬ (number = directory ∧ name = added.1) := by
          rintro ⟨rfl, rfl⟩
          simp [isEntryOf, resolved, Except.toOption] at among
        simp only [visitIn, fateIn_of_adds adds closed unlinked plainAbove below aside resolved
          (plainPart_of_lists plainNames lists among) other host calm]
      rw [visits]
      rcases listedOf_without before directory added.1
        (names.map (visitIn host schedule after owner (collector.directoryIn root))) with
        same | ⟨fault, failed, visit, among, own, unfit⟩
      · exact .inl same
      · obtain ⟨name, -, rfl⟩ := List.mem_map.1 among
        obtain ⟨resolved, rfl⟩ : (before.resolve (collector.directoryIn root).text).toOption =
          some directory ∧ name = added.1 := of_decide_eq_true own
        refine .inr ⟨fault, failed, ?_, unfit⟩
        cases found : before.resolve (collector.directoryIn root).text with
        | error refusal => simp [found, Except.toOption] at resolved
        | ok number => simpa [found, Except.toOption] using resolved

/-- While nobody changes files, one more entry in a directory changes only what is its own. With it
and without it, a collection makes the same stops, apart from its visits of the new name; so it
writes the same items and puts down the same files, in the same order, but for those visits. Of the
entry it must only be told whether it is a regular file. Where a length in its own place in the record
does not fit its field, the collection ends with it. -/
theorem entry_changes_itself_only (untroubled : schedule.Untroubled) {owner : String}
    (owned : collector.owner = .fixed owner)
    (plainRoots : ∀ root ∈ collector.roots, root.Plain)
    (aside : ∀ root ∈ collector.roots,
      ¬ before.LooksFor directory added.1 (collector.directoryIn root).text)
    (told : ∀ root ∈ collector.roots,
      before.resolve (collector.directoryIn root).text = .ok directory →
        ∀ refusal, ¬ Untold after (collector.directoryIn root) added refusal) (queries : Nat) :
    (∃ fault left right,
      collector.produce host schedule after queries = .error fault left ∧
      collector.produce host schedule before queries = .error fault right) ∨
    (∃ stops left right,
      collector.roots.mapM (stopIn host schedule after collector owner) = .ok stops ∧
      collector.produce host schedule after queries = .ok () left ∧
      collector.produce host schedule before queries = .ok () right ∧
      GainsFrom (.fixed owner) stops none { tree := after, queries := queries } left ∧
      GainsFrom (.fixed owner) (stops.map (Stop.without before directory added.1)) none
        { tree := before, queries := queries } right) ∨
    ∃ root fault left, root ∈ collector.roots ∧
      before.resolve (collector.directoryIn root).text = .ok directory ∧
      (visitIn host schedule after owner (collector.directoryIn root) added.1).handed? none =
        some fault ∧
      collector.produce host schedule after queries = .error fault left := by
  have stopped : collector.roots.mapM (stopIn host schedule before collector owner) =
      (collector.roots.mapM (stopIn host schedule after collector owner)).map
        (·.map (Stop.without before directory added.1)) ∨
      ∃ fault, collector.roots.mapM (stopIn host schedule after collector owner) = .error fault ∧
        ∃ root ∈ collector.roots,
          before.resolve (collector.directoryIn root).text = .ok directory ∧
          (visitIn host schedule after owner (collector.directoryIn root) added.1).handed? none =
            some fault := by
    refine Running.mapM_eq_map_or fun root among => ?_
    rcases stopIn_of_adds adds closed unlinked plainNames calm host collector owner
      (plainRoots root among) (aside root among) (told root among) with
      same | ⟨fault, failed, here, unfit⟩
    · exact .inl same
    · exact .inr ⟨fault, failed, root, among, here, unfit⟩
  obtain ⟨returns, fails⟩ :=
    produce_of_stops calm untroubled host after owned queries
  obtain ⟨returns', fails'⟩ :=
    produce_of_stops calm untroubled host before owned queries
  rcases stopped with stopped | ⟨fault, failed, root, among, here, unfit⟩
  · cases met : collector.roots.mapM (stopIn host schedule after collector owner) with
    | error fault =>
      rw [met] at stopped
      obtain ⟨left, failed⟩ := fails fault met
      obtain ⟨right, failed'⟩ := fails' fault stopped
      exact .inl ⟨fault, left, right, failed, failed'⟩
    | ok stops =>
      rw [met] at stopped
      obtain ⟨left, made, gains⟩ := returns stops met
      obtain ⟨right, made', gains'⟩ := returns' _ stopped
      exact .inr (.inl ⟨stops, left, right, rfl, made, made', gains, gains'⟩)
  · obtain ⟨left, ended⟩ := fails fault failed
    exact .inr (.inr ⟨root, fault, left, among, here, unfit, ended⟩)

end Collections

/-- A tree with one log file. -/
def loneTree : FileTree where
  nodes := [
    ⟨.directory [("logs", 1)] 0, 0, 0o755⟩,
    ⟨.directory [("application_1_0002", 2)] 0, 0, 0o755⟩,
    ⟨.directory [("container_1_0002_03_000004", 3)] 1, 0, 0o755⟩,
    ⟨.directory [("stdout", 4)] 2, 0, 0o755⟩,
    ⟨.file [104, 105], 0, 0o644⟩]
  base := 0

private theorem linkedTree_adds (target : String) :
    Adds 3 ("link", 5) loneTree (linkedTree target) where
  base := rfl
  user := rfl
  gained := ⟨[("stdout", 4)], [], 2, 0, 0o755, rfl, rfl, by decide⟩
  others
    | 0, _, _, found | 1, _, _, found | 2, _, _, found | 4, _, _, found => found
    | 3, other, _, _ => absurd rfl other

private theorem loneTree_linkless (number : Nat) : ¬ loneTree.IsLink number := by
  rintro ⟨target, owner, mode, link⟩
  have among := List.mem_of_getElem? link
  simp [loneTree] at among

private theorem loneTree_unlinked : loneTree.Unlinked 3 "link" :=
  fun _ _ _ _ entry _ target owner mode link =>
    absurd ⟨target, owner, mode, link⟩ (loneTree_linkless entry.2)

/-- The log file alone is put down. -/
private theorem loneTree_collected : ∃ collection,
    keyCollector.produce ⟨[(0, "root")], {}⟩ .quiet loneTree = .ok () collection ∧
      collection.items = [.entry "stdout" [104, 105]] ∧ collection.report.included =
        ["/logs/application_1_0002/container_1_0002_03_000004/stdout"] := by
  have run : (shown (keyCollector.produce ⟨[(0, "root")], {}⟩ .quiet loneTree)).fault? = none ∧
      (left (keyCollector.produce ⟨[(0, "root")], {}⟩ .quiet loneTree)).items =
        [.entry "stdout" [104, 105]] ∧
      (left (keyCollector.produce ⟨[(0, "root")], {}⟩ .quiet loneTree)).report.included =
        ["/logs/application_1_0002/container_1_0002_03_000004/stdout"] := by decide +kernel
  exact ⟨_, returned_of_shown _ run.1, run.2⟩

private theorem listFiles_linked :
    listFiles (linkedTree "stdout") (keyCollector.directoryIn ⟨"/", ["logs"]⟩) =
    .ok ["link", "stdout"] := by
  refine listFiles_of_lists ⟨[("stdout", 4), ("link", 5)], rfl, ?_, ?_, by decide +kernel⟩
  · rintro entry among refusal ⟨-, refused, -⟩
    have found : ∀ entry ∈ [("stdout", 4), ("link", 5)], ((linkedTree "stdout").stat
        ((keyCollector.directoryIn ⟨"/", ["logs"]⟩).text ++ "/" ++ entry.1)).toOption.isSome := by
      decide +kernel
    have found := found entry among
    rw [refused] at found
    cases found
  · exact .swap _ _ _

private theorem stops_linked : keyCollector.roots.mapM (stopIn ⟨[(0, "root")], {}⟩ .quiet
    (linkedTree "stdout") keyCollector "root") = .ok [.listed (["link", "stdout"].map
      (visitIn ⟨[(0, "root")], {}⟩ .quiet (linkedTree "stdout") "root"
        (keyCollector.directoryIn ⟨"/", ["logs"]⟩)))] := by
  have present : (linkedTree "stdout").isDirectory (Path.mk "/" ["logs"]).text = .ok true := rfl
  have fits : (["link", "stdout"].map (visitIn ⟨[(0, "root")], {}⟩ .quiet (linkedTree "stdout") "root"
      (keyCollector.directoryIn ⟨"/", ["logs"]⟩))).findSome? (·.handed? none) = none := by
    decide +kernel
  have met : stopIn ⟨[(0, "root")], {}⟩ .quiet (linkedTree "stdout") keyCollector "root"
      ⟨"/", ["logs"]⟩ = .ok (.listed (["link", "stdout"].map (visitIn ⟨[(0, "root")], {}⟩ .quiet
        (linkedTree "stdout") "root" (keyCollector.directoryIn ⟨"/", ["logs"]⟩)))) := by
    simp only [stopIn, present, listFiles_linked, listedOf, fits]
  rw [keyCollector, List.mapM_cons, List.mapM_nil, ← keyCollector, met]
  rfl

/-- A link to the log file is put down as a file of its own, and changes nothing else. -/
theorem link_to_file_added : Adds 3 ("link", 5) loneTree (linkedTree "stdout") ∧
    ∃ stops left right,
      keyCollector.produce ⟨[(0, "root")], {}⟩ .quiet (linkedTree "stdout") = .ok () left ∧
      keyCollector.produce ⟨[(0, "root")], {}⟩ .quiet loneTree = .ok () right ∧
      GainsFrom (.fixed "root") stops none { tree := linkedTree "stdout" } left ∧
      GainsFrom (.fixed "root") (stops.map (Stop.without loneTree 3 "link")) none
        { tree := loneTree } right ∧
      left.items = [.entry "link" [104, 105], .entry "stdout" [104, 105]] ∧
      right.items = [.entry "stdout" [104, 105]] := by
  obtain ⟨alone, made, items, -⟩ := loneTree_collected
  have closed : loneTree.Closed := FileTree.closed_of_forall rfl rfl (by decide)
  have plainNames : loneTree.PlainNames := FileTree.plainNames_of_forall (by decide)
  have plainRoots : ∀ root ∈ keyCollector.roots, root.Plain :=
    List.forall_mem_singleton.2 ⟨.inr (.inl rfl), by decide⟩
  have aside : ∀ root ∈ keyCollector.roots,
      ¬ loneTree.LooksFor 3 "link" (keyCollector.directoryIn root).text := by
    intro root among seeks
    have plain := (plainRoots root among).append keyCollector.plainPart_below
    have names := (FileTree.looksFor_plain_iff plain (keyCollector.directoryIn_parts root)).1 seeks
    obtain rfl := List.mem_singleton.1 among
    exact absurd (names.mem_of_linkless loneTree_linkless) (by decide +kernel)
  have told : ∀ root ∈ keyCollector.roots,
      loneTree.resolve (keyCollector.directoryIn root).text = .ok 3 → ∀ refusal,
        ¬ Untold (linkedTree "stdout") (keyCollector.directoryIn root) ("link", 5) refusal := by
    rintro root among - refusal
    obtain rfl := List.mem_singleton.1 among
    obtain ⟨entries, read, told, -⟩ := listFiles_eq_ok_iff.1 listFiles_linked
    cases read
    exact told _ (by simp) refusal
  obtain ⟨_, returns, -⟩ := (produce_of_stops .quiet (fun _ => rfl) ⟨[(0, "root")], {}⟩
    (linkedTree "stdout") rfl 0).1 _ stops_linked
  refine ⟨linkedTree_adds "stdout", ?_⟩
  rcases entry_changes_itself_only (linkedTree_adds "stdout") closed loneTree_unlinked plainNames
    .quiet ⟨[(0, "root")], {}⟩ keyCollector (fun _ => rfl) rfl plainRoots aside told 0 with
    ⟨fault, left, right, -, failed⟩ | ⟨stops, left, right, stopped, done, done', gains, gains'⟩ |
    ⟨root, fault, left, -, -, -, failed⟩
  · rw [made] at failed
    cases failed
  · refine ⟨stops, left, right, done, done', gains, gains', ?_, ?_⟩
    · rw [stops_linked] at stopped
      cases stopped
      rw [gains.items]
      decide +kernel
    · rw [made] at done'
      cases done'
      exact items
  · rw [returns] at failed
    cases failed

/-- Beside a link that leads through the log file, or to itself, the log file is left out, although no
other link leads to the new name. -/
theorem suppressed_by_unresolvable_links : loneTree.Unlinked 3 "link" ∧
    Adds 3 ("link", 5) loneTree (linkedTree "stdout/x") ∧
    Adds 3 ("link", 5) loneTree (linkedTree "link") ∧
    ∃ alone through looping,
      keyCollector.produce ⟨[(0, "root")], {}⟩ .quiet loneTree = .ok () alone ∧
      keyCollector.produce ⟨[(0, "root")], {}⟩ .quiet (linkedTree "stdout/x") = .ok () through ∧
      keyCollector.produce ⟨[(0, "root")], {}⟩ .quiet (linkedTree "link") = .ok () looping ∧
      alone.items = [.entry "stdout" [104, 105]] ∧
      alone.report.included = ["/logs/application_1_0002/container_1_0002_03_000004/stdout"] ∧
      (through.items, through.report) = ([], {}) ∧
      (looping.items, looping.report) =
        ([], { skipped := ["/logs/application_1_0002/container_1_0002_03_000004"] }) := by
  obtain ⟨alone, made, items, included⟩ := loneTree_collected
  have through : (shown (keyCollector.produce ⟨[(0, "root")], {}⟩ .quiet
      (linkedTree "stdout/x"))).fault? = none ∧
        ((left (keyCollector.produce ⟨[(0, "root")], {}⟩ .quiet (linkedTree "stdout/x"))).items,
          (left (keyCollector.produce ⟨[(0, "root")], {}⟩ .quiet (linkedTree "stdout/x"))).report) =
            ([], {}) := by decide +kernel
  have looping : (shown (keyCollector.produce ⟨[(0, "root")], {}⟩ .quiet
      (linkedTree "link"))).fault? = none ∧
        ((left (keyCollector.produce ⟨[(0, "root")], {}⟩ .quiet (linkedTree "link"))).items,
          (left (keyCollector.produce ⟨[(0, "root")], {}⟩ .quiet (linkedTree "link"))).report) =
            ([], { skipped := ["/logs/application_1_0002/container_1_0002_03_000004"] }) := by
    decide +kernel
  exact ⟨loneTree_unlinked, linkedTree_adds _, linkedTree_adds _, alone, _, _, made,
    returned_of_shown _ through.1, returned_of_shown _ looping.1, items, included, through.2,
    looping.2⟩

end ContainerLogs.Collector
