import ContainerLogs.Proofs.Archive.Item
import ContainerLogs.Proofs.Collection.Visits

/-!
What a collection amounts to. Each root is examined, the directory below it is listed if there is
one, and each listed file is visited once it is known who should own it. What is written, reported
and asked follows from these visits, in the order in which they were made.
-/
namespace ContainerLogs.Collector

open Running (forM_cons)

/-- A listed file: where it was found, whom it should have belonged to, and what became of it. -/
structure Visit where
  directory : Path
  name : String
  expected : String
  fate : Fate

/-- Where a file or a directory is put down in the report. -/
inductive Mark where
  | included (path : String)
  | mismatch (found : OwnershipMismatch)
  | skipped (path : String)

namespace Mark

def included? : Mark → Option String
  | included path => some path
  | _ => none

def mismatch? : Mark → Option OwnershipMismatch
  | mismatch found => some found
  | _ => none

def skipped? : Mark → Option String
  | skipped path => some path
  | _ => none

end Mark

namespace Visit

def path (visit : Visit) : Path := visit.directory.append ⟨"", [visit.name]⟩

/-- What stands in the record in place of the file. -/
def items (visit : Visit) : List Archive.Item :=
  match visit.fate with
  | .included content => [.entry visit.name content]
  | .mismatch found => [.diagnostic ("Owner '" ++ found.actual ++ "' for path '" ++ found.path ++
      "' did not match expected owner '" ++ found.expected ++ "'")]
  | .unopened _ | .unread _ => []

/-- The bytes of what stands in the record in place of the file. A name and a message stand behind
their number in four bytes, a content behind its number in eight; a message is marked by -1. -/
def bytes (visit : Visit) : Bytes :=
  match visit.fate with
  | .included content =>
      let name := Text.Utf8.encode visit.name
      Wire.int name.length ++ (name ++ (Wire.long content.length ++ content))
  | .mismatch found =>
      let message := Text.Utf8.encode ("Owner '" ++ found.actual ++ "' for path '" ++ found.path ++
        "' did not match expected owner '" ++ found.expected ++ "'")
      [255, 255, 255, 255] ++ (Wire.int message.length ++ message)
  | .unopened _ | .unread _ => []

/-- The first of the lengths in these bytes that does not fit its field, and how many of the bytes
come before it. -/
def unfit? (visit : Visit) : Option (Nat × Wire.OutOfRange) :=
  match visit.fate with
  | .included content =>
      let name := Text.Utf8.encode visit.name
      if 2 ^ 31 ≤ name.length then some (0, ⟨4, name.length⟩)
      else if 2 ^ 63 ≤ content.length then some (4 + name.length, ⟨8, content.length⟩)
      else none
  | .mismatch found =>
      let message := Text.Utf8.encode ("Owner '" ++ found.actual ++ "' for path '" ++ found.path ++
        "' did not match expected owner '" ++ found.expected ++ "'")
      if 2 ^ 31 ≤ message.length then some (4, ⟨4, message.length⟩) else none
  | .unopened _ | .unread _ => none

/-- What can be written in place of the file. -/
def front (visit : Visit) : Bytes :=
  match visit.unfit? with
  | none => visit.bytes
  | some (count, _) => visit.bytes.take count

/-- The fault in which handing this over ends: no more than so many bytes are taken, or a length does
not fit. -/
def handed? (visit : Visit) (limit : Option (Errno × Nat)) : Option CollectFault :=
  let unfit? := visit.unfit?.map fun unfit => CollectFault.oversized visit.front unfit.2
  match limit with
  | none => unfit?
  | some (errno, given) =>
      if given < visit.front.length then some (.storage (visit.front.take given) (.bare errno))
      else unfit?

/-- The fault in which putting down the file ends. What was copied of a file must be gone back to, handed
over and closed in any case; of a file that is not read to its end, the copy is only closed. -/
def fault? (visit : Visit) (trouble : Trouble) : Option CollectFault :=
  match visit.fate, trouble.rewinding, trouble.closing with
  | .unopened _, _, _ | .unread _, _, none => none
  | .mismatch _, _, _ => visit.handed? trouble.handing
  | .unread _, _, some errno | .included _, some _, some errno => some (.storage [] (.bare errno))
  | .included _, some errno, none => some (.storage [] (.bare errno))
  | .included _, none, none => visit.handed? trouble.handing
  | .included _, none, some errno =>
      match visit.handed? trouble.handing with
      | none => some (.storage visit.bytes (.bare errno))
      | some fault => some (.storage fault.written (.bare errno))

def mark (visit : Visit) : Mark :=
  match visit.fate with
  | .included _ => .included visit.path.text
  | .mismatch found => .mismatch found
  | .unopened _ | .unread _ => .skipped visit.path.text

end Visit

/-- What a collection meets at a root. -/
inductive Stop where
  | missing (root : Path)
  | noLogs (root : Path)
  | unlisted (directory : Path)
  | listed (visits : List Visit)

namespace Stop

def visits : Stop → List Visit
  | listed visits => visits
  | _ => []

def items (stop : Stop) : List Archive.Item := stop.visits.flatMap Visit.items

def marks : Stop → List Mark
  | listed visits => visits.map Visit.mark
  | unlisted directory => [.skipped directory.text]
  | missing _ | noLogs _ => []

def missing? : Stop → Option String
  | missing root => some root.text
  | _ => none

end Stop

/-- Where the files of the container are below a root: root/application/container. -/
def below (collector : Collector) (root : Path) : Path :=
  ⟨root.anchor, root.parts ++ [collector.container.application.text, collector.container.text]⟩

/-- The files of a directory are visited in order, each once the next answer names its owner. Where
there is no answer, and where a file cannot be put down, the collection ends. -/
inductive Round (host : Host) (schedule : Schedule) (owner : ExpectedOwner) (directory : Path) :
    Nat → Surroundings → List String → List Visit → Option CollectFault → Surroundings → Prop where
  | done {question : Nat} {around : Surroundings} :
      Round host schedule owner directory question around [] [] none around
  | unanswered {question : Nat} {around : Surroundings} {name : String} {names : List String}
      (silent : owner.answer? question = none) :
      Round host schedule owner directory question around (name :: names) [] (some .owner) around
  | visit {question : Nat} {before between after : Surroundings} {name expected : String}
      {names : List String} {fate : Fate} {visits : List Visit} {ending : Option CollectFault}
      (answered : owner.answer? question = some expected)
      (visited : Visited host schedule (directory.append ⟨"", [name]⟩) expected before fate between)
      (whole : Visit.fault? ⟨directory, name, expected, fate⟩ (schedule.trouble between.requests) =
        none)
      (rest : Round host schedule owner directory (question + 1) between names visits ending after) :
      Round host schedule owner directory question before (name :: names)
        (⟨directory, name, expected, fate⟩ :: visits) ending after
  | broken {question : Nat} {before after : Surroundings} {name expected : String}
      {names : List String} {fate : Fate} {fault : CollectFault}
      (answered : owner.answer? question = some expected)
      (visited : Visited host schedule (directory.append ⟨"", [name]⟩) expected before fate after)
      (breaks : Visit.fault? ⟨directory, name, expected, fate⟩ (schedule.trouble after.requests) =
        some fault) :
      Round host schedule owner directory question before (name :: names) [] (some fault) after

/-- What is met at a root: a stop, and a fault if the collection ends there. It ends where it cannot
be told whether the root is a directory, and where it ends among the files below the root. -/
inductive Meets (host : Host) (schedule : Schedule) (collector : Collector) (question : Nat)
    (before : Surroundings) (root : Path) :
    Option Stop → Option CollectFault → Surroundings → Prop where
  | refused {refusal : Refusal}
      (untold : (before.await schedule).tree.isDirectory root.text = .error refusal) :
      Meets host schedule collector question before root none (some (.root refusal))
        (before.await schedule)
  | missing (absent : (before.await schedule).tree.isDirectory root.text = .ok false) :
      Meets host schedule collector question before root (some (.missing root)) none
        (before.await schedule)
  | noLogs {refusal : Refusal} {after : Surroundings}
      (present : (before.await schedule).tree.isDirectory root.text = .ok true)
      (listed : Listed schedule (collector.below root) (before.await schedule)
        (.error refusal) after)
      (absent : refusal.errno? = some .noEntry ∨ refusal.errno? = some .notDirectory) :
      Meets host schedule collector question before root (some (.noLogs root)) none after
  | unlisted {refusal : Refusal} {after : Surroundings}
      (present : (before.await schedule).tree.isDirectory root.text = .ok true)
      (listed : Listed schedule (collector.below root) (before.await schedule)
        (.error refusal) after)
      (there : ¬ (refusal.errno? = some .noEntry ∨ refusal.errno? = some .notDirectory)) :
      Meets host schedule collector question before root
        (some (.unlisted (collector.below root))) none after
  | listed {between after : Surroundings} {names : List String} {visits : List Visit}
      {ending : Option CollectFault}
      (present : (before.await schedule).tree.isDirectory root.text = .ok true)
      (listed : Listed schedule (collector.below root) (before.await schedule) (.ok names)
        between)
      (round : Round host schedule collector.owner (collector.below root) question between
        names visits ending after) :
      Meets host schedule collector question before root (some (.listed visits)) ending after

/-- The roots are gone through in order, up to one where the collection ends. -/
inductive Survey (host : Host) (schedule : Schedule) (collector : Collector) :
    Nat → Surroundings → List Path → List Stop → Option CollectFault → Surroundings → Prop where
  | done {question : Nat} {around : Surroundings} :
      Survey host schedule collector question around [] [] none around
  | last {question : Nat} {before after : Surroundings} {root : Path} {roots : List Path}
      {stop? : Option Stop} {fault : CollectFault}
      (meets : Meets host schedule collector question before root stop? (some fault) after) :
      Survey host schedule collector question before (root :: roots) stop?.toList (some fault) after
  | next {question : Nat} {before between after : Surroundings} {root : Path} {roots : List Path}
      {stop : Stop} {stops : List Stop} {ending : Option CollectFault}
      (meets : Meets host schedule collector question before root (some stop) none between)
      (rest : Survey host schedule collector (question + stop.visits.length) between roots stops
        ending after) :
      Survey host schedule collector question before (root :: roots) (stop :: stops) ending after

/-- How often an owner was asked for, once so many files were to be visited. -/
def asked : ExpectedOwner → Nat → Nat → Nat
  | .fixed _, queries, _ => queries
  | .perFile _, queries, files => queries + files

/-- One more question if the collection ended at a file, which was asked for and not put down. -/
def pending : Option CollectFault → Nat
  | none | some (.root _) => 0
  | some _ => 1

namespace Visit

variable {visit : Visit}

theorem path_name (visit : Visit) : visit.path.name = visit.name := by
  simp [path, Path.name, Path.append]

private theorem written_of_included {content : Bytes} (read : visit.fate = .included content) :
    (Archive.Item.entry visit.name content).written = (visit.front, visit.unfit?.map (·.2)) := by
  obtain ⟨directory, name, expected, fate⟩ := visit
  obtain rfl : fate = .included content := read
  simp only [front, unfit?]
  by_cases short : 2 ^ 31 ≤ (Text.Utf8.encode name).length
  · have unfit := mt (Wire.fits_int_natCast _).1 (Nat.not_lt.2 short)
    rw [if_pos short]
    simp [Archive.Item.written, Archive.Item.parts, Archive.Item.entryParts,
      Archive.Item.writtenOf, Wire.counted?_of_unfit unfit, Wire.intWidth]
  have fitName := (Wire.fits_int_natCast _).2 (Nat.not_le.1 short)
  rw [if_neg short]
  by_cases long : 2 ^ 63 ≤ content.length
  · have unfit := mt (Wire.fits_long_natCast _).1 (Nat.not_lt.2 long)
    rw [if_pos long]
    have numbered : (Wire.int (Text.Utf8.encode name).length).length = 4 := Wire.length_int _
    simp [Archive.Item.written, Archive.Item.parts, Archive.Item.entryParts,
      Archive.Item.writtenOf, bytes, Wire.counted?_of_fits fitName, Wire.long?_of_unfit unfit,
      Wire.longWidth, Wire.counted, List.take_append, List.take_of_length_le, numbered]
  · have fitContent := (Wire.fits_long_natCast _).2 (Nat.not_le.1 long)
    have fits : (Archive.Item.entry name content).Fits := ⟨fitName, fitContent⟩
    rw [if_neg long, Archive.Item.written_of_fits fits]
    simp [Archive.Item.bytes, bytes, Wire.counted]

private theorem written_of_mismatch {found : OwnershipMismatch}
    (foreign : visit.fate = .mismatch found) :
    (Archive.Item.diagnostic found.message).written = (visit.front, visit.unfit?.map (·.2)) := by
  obtain ⟨directory, name, expected, fate⟩ := visit
  obtain rfl : fate = .mismatch found := foreign
  have mark : Wire.int Archive.Item.diagnosticMark = [255, 255, 255, 255] := by decide
  simp only [front, unfit?]
  rw [← OwnershipMismatch.message]
  by_cases long : 2 ^ 31 ≤ (Text.Utf8.encode found.message).length
  · have unfit := mt (Wire.fits_int_natCast _).1 (Nat.not_lt.2 long)
    rw [if_pos long]
    simp [Archive.Item.written, Archive.Item.parts, Archive.Item.writtenOf, bytes,
      Archive.Item.int?_diagnosticMark, Wire.counted?_of_unfit unfit, Wire.intWidth, mark]
  · have fits : (Archive.Item.diagnostic found.message).Fits :=
      (Wire.fits_int_natCast _).2 (Nat.not_le.1 long)
    rw [if_neg long, Archive.Item.written_of_fits fits]
    simp [Archive.Item.bytes, bytes, Wire.counted, mark, OwnershipMismatch.message]

private theorem flatMap_bytes (visit : Visit) :
    visit.items.flatMap Archive.Item.bytes = visit.bytes := by
  have mark : Wire.int Archive.Item.diagnosticMark = [255, 255, 255, 255] := by decide
  obtain ⟨directory, name, expected, fate⟩ := visit
  cases fate <;> simp [items, bytes, Archive.Item.bytes, Wire.counted, mark]

/-- Handing over the item of a file ends as handing over its bytes does. -/
private theorem handing?_eq {item : Archive.Item}
    (written : item.written = (visit.front, visit.unfit?.map (·.2))) (limit : Option (Errno × Nat)) :
    handing? limit item = visit.handed? limit := by
  simp only [handing?, handed?, written, Option.map_map]
  rfl

/-- A file is put down unless there is this fault. -/
theorem fault?_eq (visit : Visit) (trouble : Trouble) :
    visit.fate.fault? visit.path trouble = visit.fault? trouble := by
  cases fate : visit.fate with
  | unopened refusal => simp only [Fate.fault?, fault?, fate]
  | mismatch found =>
    simp only [Fate.fault?, fault?, fate, handing?_eq (written_of_mismatch fate)]
  | unread refusal =>
    cases closing : trouble.closing <;> simp [Fate.fault?, fault?, fate, closing]
  | included content =>
    have bytes : visit.bytes = (Archive.Item.entry visit.name content).bytes := by
      rw [← flatMap_bytes, items, fate]
      exact List.append_nil _
    simp only [Fate.fault?, fault?, fate, handingCopy?, path_name,
      handing?_eq (written_of_included fate), bytes]
    cases trouble.rewinding <;> cases trouble.closing <;>
      cases visit.handed? trouble.handing <;> rfl

end Visit

/-- What a collection gains: items of its record, entries of its report, questions asked. -/
structure Gains (owner : ExpectedOwner) (items : List Archive.Item) (marks : List Mark)
    (missing : List String) (files : Nat) (before after : Collection) : Prop where
  items : after.items = before.items ++ items
  included : after.report.included = before.report.included ++ marks.filterMap Mark.included?
  mismatches : after.report.mismatches = before.report.mismatches ++ marks.filterMap Mark.mismatch?
  skipped : after.report.skipped = before.report.skipped ++ marks.filterMap Mark.skipped?
  missingRoots : after.report.missingRoots = before.report.missingRoots ++ missing
  queries : after.queries = asked owner before.queries files

namespace Gains

variable {owner : ExpectedOwner} {first second third : Collection}

private theorem nothing (owner : ExpectedOwner) {before after : Collection}
    (items : after.items = before.items) (report : after.report = before.report)
    (queries : after.queries = before.queries) : Gains owner [] [] [] 0 before after := by
  constructor <;> simp [items, report, queries]
  cases owner <;> rfl

private theorem trans {items items' : List Archive.Item} {marks marks' : List Mark}
    {missing missing' : List String} {files files' : Nat}
    (h : Gains owner items marks missing files first second)
    (h' : Gains owner items' marks' missing' files' second third) :
    Gains owner (items ++ items') (marks ++ marks') (missing ++ missing') (files + files') first
      third where
  items := by rw [h'.items, h.items, List.append_assoc]
  included := by rw [h'.included, h.included, List.filterMap_append, List.append_assoc]
  mismatches := by rw [h'.mismatches, h.mismatches, List.filterMap_append, List.append_assoc]
  skipped := by rw [h'.skipped, h.skipped, List.filterMap_append, List.append_assoc]
  missingRoots := by rw [h'.missingRoots, h.missingRoots, List.append_assoc]
  queries := by
    rw [h'.queries, h.queries]
    cases owner with
    | fixed => rfl
    | perFile => exact Nat.add_assoc _ _ _

/-- What a visit comes to is what it adds. -/
private theorem of_visit (owner : ExpectedOwner) (visit : Visit) (state : Collection)
    (around : Surroundings) : Gains owner visit.items [visit.mark] [] 1 state
      (after owner visit.path state around visit.fate) := by
  obtain ⟨directory, name, expected, fate⟩ := visit
  have named : (directory.append ⟨"", [name]⟩).name = name := by simp [Path.name, Path.append]
  cases fate <;> constructor <;>
    simp [after, Visit.items, Visit.mark, Visit.path, Fate.items, Fate.enter, Mark.included?,
      Mark.mismatch?, Mark.skipped?, named, OwnershipMismatch.message] <;>
    cases owner <;> rfl

/-- A file that is not put down only was asked for. -/
private theorem of_fault (owner : ExpectedOwner) (path : Path) (state : Collection)
    (around : Surroundings) (fate : Fate) :
    Gains owner [] [] [] 1 state (afterFault owner path state around fate) := by
  constructor <;> simp [afterFault]
  cases owner <;> rfl

private theorem of_missing (owner : ExpectedOwner) (container : ContainerId) (root : Path)
    (state : Collection) (around : Surroundings) : Gains owner [] [] [root.text] 0 state
      (afterBarren container state around (.missing root)) := by
  constructor <;> simp [afterBarren, Barren.enter, asked]
  cases owner <;> rfl

private theorem of_unlisted (owner : ExpectedOwner) (container : ContainerId) (directory : Path)
    (refusal : Refusal) (state : Collection) (around : Surroundings) :
    Gains owner [] [.skipped directory.text] [] 0 state
      (afterBarren container state around (.unlisted directory refusal)) := by
  constructor <;> simp [afterBarren, Barren.enter, asked, Mark.included?, Mark.mismatch?,
    Mark.skipped?]
  cases owner <;> rfl

end Gains

/-- Handing over ends at a length that does not fit, or where no more is taken. -/
private theorem Visit.handed?_eq_some {visit : Visit} {limit : Option (Errno × Nat)}
    {fault : CollectFault} (ends : visit.handed? limit = some fault) :
    (∃ count unfit, visit.unfit? = some (count, unfit) ∧ fault = .oversized visit.front unfit) ∨
      ∃ errno given, limit = some (errno, given) ∧ given < visit.front.length ∧
        fault = .storage (visit.front.take given) (.bare errno) := by
  have unfits (ends : (visit.unfit?.map fun unfit =>
      CollectFault.oversized visit.front unfit.2) = some fault) :
      ∃ count unfit, visit.unfit? = some (count, unfit) ∧ fault = .oversized visit.front unfit := by
    obtain ⟨⟨count, unfit⟩, first, rfl⟩ := Option.map_eq_some_iff.1 ends
    exact ⟨count, unfit, first, rfl⟩
  rcases limit with _ | ⟨errno, given⟩
  · exact .inl (unfits ends)
  · simp only [handed?] at ends
    split at ends
    · rename_i short
      exact .inr ⟨errno, given, rfl, short, (Option.some.inj ends).symm⟩
    · exact .inl (unfits ends)

/-- What fails of the places where bytes are put aside fails with this error. -/
def Fails (trouble : Trouble) (errno : Errno) : Prop :=
  trouble.rewinding = some errno ∨ (∃ given, trouble.handing = some (errno, given)) ∨
    trouble.closing = some errno

/-- Putting down a file ends at a length that does not fit, or where bytes are put aside. -/
theorem Visit.fault?_eq_some {visit : Visit} {trouble : Trouble} {fault : CollectFault}
    (ends : visit.fault? trouble = some fault) :
    (∃ count unfit, visit.unfit? = some (count, unfit) ∧ fault = .oversized visit.front unfit) ∨
      ∃ written errno, fault = .storage written (.bare errno) ∧ Fails trouble errno := by
  have handed (ends : visit.handed? trouble.handing = some fault) :
      (∃ count unfit, visit.unfit? = some (count, unfit) ∧ fault = .oversized visit.front unfit) ∨
        ∃ written errno, fault = .storage written (.bare errno) ∧ Fails trouble errno := by
    rcases handed?_eq_some ends with unfits | ⟨errno, given, limited, -, rfl⟩
    · exact .inl unfits
    · exact .inr ⟨_, errno, rfl, .inr (.inl ⟨given, limited⟩)⟩
  unfold fault? at ends
  split at ends
  · cases ends
  · cases ends
  · exact handed ends
  · rename_i closing
    exact .inr ⟨_, _, (Option.some.inj ends).symm, .inr (.inr closing)⟩
  · rename_i closing
    exact .inr ⟨_, _, (Option.some.inj ends).symm, .inr (.inr closing)⟩
  · rename_i rewinding _
    exact .inr ⟨_, _, (Option.some.inj ends).symm, .inl rewinding⟩
  · exact handed ends
  · rename_i closing
    split at ends <;> exact .inr ⟨_, _, (Option.some.inj ends).symm, .inr (.inr closing)⟩

/-- While bytes can be put aside, only a length can stop a file from being put down. -/
theorem Visit.fault?_of_untroubled (visit : Visit) : visit.fault? {} = visit.handed? none := by
  unfold fault? handed? unfit?
  cases visit.fate <;> rfl

/-- Of a file that is put down, everything fits. -/
theorem Visit.handed?_of_whole {visit : Visit} {trouble : Trouble}
    (whole : visit.fault? trouble = none) : visit.handed? none = none := by
  have handed (whole : visit.handed? trouble.handing = none) : visit.handed? none = none := by
    unfold handed? at whole ⊢
    cases limit : trouble.handing with
    | none => rwa [limit] at whole
    | some taken =>
      simp only [limit] at whole
      split at whole
      · cases whole
      · exact whole
  unfold fault? at whole
  split at whole
  · rename_i unopened
    simp only [handed?, unfit?, unopened, Option.map_none]
  · rename_i unread _
    simp only [handed?, unfit?, unread, Option.map_none]
  · exact handed whole
  · cases whole
  · cases whole
  · cases whole
  · exact handed whole
  · split at whole <;> cases whole

/-- What is put down in place of a file fits. -/
private theorem Visit.fits_of_whole {visit : Visit} {trouble : Trouble}
    (whole : visit.fault? trouble = none) : ∀ item ∈ visit.items, item.Fits := by
  have unfit : visit.unfit? = none := Option.map_eq_none_iff.1 (handed?_of_whole whole)
  cases fate : visit.fate with
  | unopened refusal | unread refusal =>
    simp only [items, fate]
    nofun
  | mismatch found =>
    have written := congrArg (·.2) (written_of_mismatch fate)
    rw [unfit] at written
    simp only [items, fate, List.forall_mem_singleton]
    exact Archive.Item.fits_of_written written
  | included content =>
    have written := congrArg (·.2) (written_of_included fate)
    rw [unfit] at written
    simp only [items, fate, List.forall_mem_singleton]
    exact Archive.Item.fits_of_written written

private theorem Visit.front_prefix (visit : Visit) : visit.front <+: visit.bytes := by
  unfold front
  split
  · exact List.prefix_refl _
  · exact List.take_prefix _ _

/-- What the record got of a file that is not put down is a front of what it would have got. -/
theorem Visit.written_prefix {visit : Visit} {trouble : Trouble} {fault : CollectFault}
    (ends : visit.fault? trouble = some fault) : fault.written <+: visit.bytes := by
  have handed {fault : CollectFault} (ends : visit.handed? trouble.handing = some fault) :
      fault.written <+: visit.bytes := by
    rcases handed?_eq_some ends with ⟨_, _, -, rfl⟩ | ⟨_, given, -, -, rfl⟩
    · exact visit.front_prefix
    · exact (List.take_prefix given _).trans visit.front_prefix
  unfold fault? at ends
  split at ends
  · cases ends
  · cases ends
  · exact handed ends
  · cases ends
    exact List.nil_prefix
  · cases ends
    exact List.nil_prefix
  · cases ends
    exact List.nil_prefix
  · exact handed ends
  · split at ends
    · cases ends
      exact List.prefix_refl _
    · rename_i before
      cases ends
      have front := handed before
      exact front

/-- The questions that a collection goes on to ask are those of the survey. -/
def Aligned (owner : ExpectedOwner) (question queries : Nat) : Prop :=
  ∀ files, owner.answer? (queries + files) = owner.answer? (question + files)

private theorem Aligned.gains {owner : ExpectedOwner} {question files : Nat}
    {items : List Archive.Item} {marks : List Mark} {missing : List String}
    {before after : Collection} (h : Aligned owner question before.queries)
    (gains : Gains owner items marks missing files before after) :
    Aligned owner (question + files) after.queries := by
  intro more
  rw [gains.queries]
  cases owner with
  | fixed => rfl
  | perFile =>
    rw [asked, Nat.add_assoc, Nat.add_assoc]
    exact h _

/-- How a collection ends. -/
def ended : Option CollectFault → Collection → EStateM.Result CollectFault Collection Unit
  | none, state => .ok () state
  | some fault, state => .error fault state

variable {host : Host} {schedule : Schedule} {collector : Collector}

/-- Every directory has its round of visits. -/
theorem exists_round (host : Host) (schedule : Schedule) (owner : ExpectedOwner) (directory : Path)
    (names : List String) (question : Nat) (before : Surroundings) :
    ∃ visits ending after,
      Round host schedule owner directory question before names visits ending after := by
  induction names generalizing question before with
  | nil => exact ⟨[], none, before, .done⟩
  | cons name names ih =>
    cases answered : owner.answer? question with
    | none => exact ⟨[], some .owner, before, .unanswered answered⟩
    | some expected =>
      have visited := visited_visit host schedule (directory.append ⟨"", [name]⟩) expected before
      generalize visit host schedule (directory.append ⟨"", [name]⟩) expected before = met at visited
      obtain ⟨between, fate⟩ := met
      cases ends : Visit.fault? ⟨directory, name, expected, fate⟩
          (schedule.trouble between.requests) with
      | some fault => exact ⟨[], some fault, between, .broken answered visited ends⟩
      | none =>
        obtain ⟨visits, ending, after, rest⟩ := ih (question + 1) between
        exact ⟨_, ending, after, .visit answered visited ends rest⟩

/-- The files are visited as in the round, and the collection gains what the visits come to. -/
theorem forM_of_round {owner : ExpectedOwner} {directory : Path} {names : List String}
    {question : Nat} {before around : Surroundings} {visits : List Visit}
    {ending : Option CollectFault}
    (round : Round host schedule owner directory question before names visits ending around)
    (state : Collection) (here : state.toSurroundings = before)
    (aligned : Aligned owner question state.queries) :
    ∃ final, (names.forM fun name =>
        collectFile host schedule owner (directory.append ⟨"", [name]⟩)) state = ended ending final ∧
      final.toSurroundings = around ∧
      Gains owner (visits.flatMap Visit.items) (visits.map Visit.mark) []
        (visits.length + pending ending) state final := by
  induction round generalizing state with
  | done => exact ⟨state, rfl, here, .nothing owner rfl rfl rfl⟩
  | unanswered silent =>
    rw [forM_cons, collectFile_of_none ((aligned 0).trans silent)]
    refine ⟨{ state with queries := owner.asked state.queries }, rfl, here, ?_⟩
    constructor <;> simp [asked, pending]
    cases owner <;> rfl
  | @broken question before after name expected names fate fault answered visited breaks =>
    have made := visit_of_visited visited
    rw [← here] at made
    rw [← Visit.fault?_eq] at breaks
    rw [forM_cons, collectFile_of_fault ((aligned 0).trans answered) made breaks]
    have one : pending (some fault) = 1 := by
      rw [Visit.fault?_eq] at breaks
      rcases Visit.fault?_eq_some breaks with ⟨_, _, -, rfl⟩ | ⟨_, _, rfl, -⟩ <;> rfl
    refine ⟨_, rfl, rfl, ?_⟩
    rw [one]
    exact .of_fault owner _ state after fate
  | @visit question before between after name expected names fate visits ending answered visited
      whole rest ih =>
    have made := visit_of_visited visited
    rw [← here] at made
    rw [← Visit.fault?_eq] at whole
    rw [forM_cons, collectFile_of_whole ((aligned 0).trans answered) made whole]
    have gains := Gains.of_visit owner ⟨directory, name, expected, fate⟩ state between
    obtain ⟨final, made, reached, more⟩ := ih _ rfl (aligned.gains gains)
    refine ⟨final, made, reached, ?_⟩
    have total := gains.trans more
    have count : 1 + (visits.length + pending ending) =
        visits.length + 1 + pending ending := by omega
    rw [List.flatMap_cons, List.map_cons, List.length_cons, ← count]
    exact total

/-- What is gained from stops, of which the last may have left a file that is not put down. -/
abbrev GainsFrom (owner : ExpectedOwner) (stops : List Stop) (ending : Option CollectFault)
    (before after : Collection) : Prop :=
  Gains owner (stops.flatMap Stop.items) (stops.flatMap Stop.marks) (stops.filterMap Stop.missing?)
    ((stops.flatMap Stop.visits).length + pending ending) before after

private theorem GainsFrom.cons {owner : ExpectedOwner} {stop : Stop} {stops : List Stop}
    {ending : Option CollectFault} {before between after : Collection}
    (first : GainsFrom owner [stop] none before between)
    (others : GainsFrom owner stops ending between after) :
    GainsFrom owner (stop :: stops) ending before after := by
  have total := first.trans others
  have missing : (stop :: stops).filterMap Stop.missing? =
      [stop].filterMap Stop.missing? ++ stops.filterMap Stop.missing? :=
    List.filterMap_append (l := [stop])
  have files : (((stop :: stops).flatMap Stop.visits).length + pending ending) =
      (([stop].flatMap Stop.visits).length + pending none) +
        ((stops.flatMap Stop.visits).length + pending ending) := by
    simp only [List.flatMap_cons, List.flatMap_nil, List.append_nil, List.length_append, pending]
    simp [Nat.add_assoc]
  rw [GainsFrom, missing, files]
  simpa only [List.flatMap_cons, List.flatMap_nil, List.append_nil] using total

/-- At every root something is met, or the collection ends there. -/
private theorem exists_meets (host : Host) (schedule : Schedule) (collector : Collector)
    (question : Nat) (before : Surroundings) (root : Path) : ∃ stop? ending after,
      Meets host schedule collector question before root stop? ending after ∧
      (ending = none → stop?.isSome) := by
  cases kind : (before.await schedule).tree.isDirectory root.text with
  | error refusal => exact ⟨none, some (.root refusal), _, .refused kind, nofun⟩
  | ok isDirectory =>
    cases isDirectory with
    | false => exact ⟨some (.missing root), none, _, .missing kind, fun _ => rfl⟩
    | true =>
      have listed := listed_list schedule (collector.directoryIn root) (before.await schedule)
      generalize list schedule (collector.directoryIn root) (before.await schedule) = listing
        at listed
      obtain ⟨between, refusal | names⟩ := listing
      · by_cases absent : refusal.errno? = some .noEntry ∨ refusal.errno? = some .notDirectory
        · exact ⟨some (.noLogs root), none, _, .noLogs kind listed absent, fun _ => rfl⟩
        · exact ⟨some (.unlisted _), none, _, .unlisted kind listed absent, fun _ => rfl⟩
      · obtain ⟨visits, ending, after, round⟩ := exists_round host schedule collector.owner
          (collector.directoryIn root) names question between
        exact ⟨some (.listed visits), ending, after, .listed kind listed round, fun _ => rfl⟩

/-- What is met at a root is what the collection gains there. -/
private theorem collectRoot_of_meets {question : Nat} {before after : Surroundings} {root : Path}
    {stop? : Option Stop} {ending : Option CollectFault}
    (meets : Meets host schedule collector question before root stop? ending after)
    {state : Collection} (here : state.toSurroundings = before)
    (aligned : Aligned collector.owner question state.queries) :
    ∃ final, collectRoot host schedule collector root state = ended ending final ∧
      final.toSurroundings = after ∧ GainsFrom collector.owner stop?.toList ending state final := by
  have examined {kind : Except Refusal Bool}
      (told : (before.await schedule).tree.isDirectory root.text = kind) :
      examineRoot schedule root state.toSurroundings = (before.await schedule, kind) := by
    rw [here, ← told]
    rfl
  cases meets with
  | refused untold =>
    exact ⟨_, collectRoot_of_refused (examined untold), rfl, .nothing _ rfl rfl rfl⟩
  | missing absent =>
    exact ⟨_, collectRoot_of_missing (examined absent), rfl, .of_missing _ _ root state _⟩
  | noLogs present listed absent =>
    refine ⟨_, collectRoot_of_unlisted (examined present) (list_of_listed listed), rfl, ?_⟩
    simp only [Barren.ofRefusal, meansNoLogs, absent, decide_true, if_true]
    exact .nothing _ rfl rfl rfl
  | unlisted present listed there =>
    refine ⟨_, collectRoot_of_unlisted (examined present) (list_of_listed listed), rfl, ?_⟩
    simp only [Barren.ofRefusal, meansNoLogs, there, decide_false, Bool.false_eq_true, if_false]
    exact .of_unlisted _ _ (collector.directoryIn root) _ state _
  | @listed between _ names visits _ present listed round =>
    obtain ⟨final, made, reached, gains⟩ :=
      forM_of_round round { state with toSurroundings := between } rfl aligned
    refine ⟨final, ?_, reached, ?_⟩
    · rw [collectRoot_of_listed (examined present) (list_of_listed listed)]
      exact made
    · have missing : [Stop.listed visits].filterMap Stop.missing? = [] := rfl
      rw [GainsFrom, Option.toList_some, missing]
      simp only [List.flatMap_cons, List.flatMap_nil, List.append_nil]
      exact ⟨gains.items, gains.included, gains.mismatches, gains.skipped, gains.missingRoots,
        gains.queries⟩

theorem exists_survey (host : Host) (schedule : Schedule) (collector : Collector)
    (roots : List Path) (question : Nat) (before : Surroundings) : ∃ stops ending after,
      Survey host schedule collector question before roots stops ending after := by
  induction roots generalizing question before with
  | nil => exact ⟨[], none, before, .done⟩
  | cons root roots ih =>
    obtain ⟨stop?, ending, between, meets, stopped⟩ :=
      exists_meets host schedule collector question before root
    cases ending with
    | some fault => exact ⟨_, some fault, between, .last meets⟩
    | none =>
      obtain ⟨stop, rfl⟩ := Option.isSome_iff_exists.1 (stopped rfl)
      obtain ⟨stops, ending, after, rest⟩ := ih (question + stop.visits.length) between
      exact ⟨stop :: stops, ending, after, .next meets rest⟩

/-- The roots are collected from as surveyed. -/
theorem forM_of_survey {question : Nat} {before around : Surroundings} {roots : List Path}
    {stops : List Stop} {ending : Option CollectFault}
    (survey : Survey host schedule collector question before roots stops ending around)
    (state : Collection) (here : state.toSurroundings = before)
    (aligned : Aligned collector.owner question state.queries) :
    ∃ final, roots.forM (collectRoot host schedule collector) state = ended ending final ∧
      final.toSurroundings = around ∧ GainsFrom collector.owner stops ending state final := by
  induction survey generalizing state with
  | done => exact ⟨state, rfl, here, .nothing _ rfl rfl rfl⟩
  | last meets =>
    obtain ⟨final, made, reached, gains⟩ := collectRoot_of_meets meets here aligned
    exact ⟨final, by rw [forM_cons, made]; rfl, reached, gains⟩
  | @next question before between after root roots stop stops ending meets rest ih =>
    obtain ⟨next, made, reached, gains⟩ := collectRoot_of_meets meets here aligned
    have count : ([stop].flatMap Stop.visits).length + pending none = stop.visits.length := by
      simp [pending]
    have aligned' := aligned.gains gains
    rw [Option.toList_some, count] at aligned'
    obtain ⟨final, made', reached', more⟩ := ih next reached aligned'
    exact ⟨final, by rw [forM_cons, made]; exact made', reached', gains.cons more⟩

/-- A file was visited and put down. -/
def Visit.Made (host : Host) (schedule : Schedule) (visit : Visit) : Prop :=
  ∃ before after, Visited host schedule visit.path visit.expected before visit.fate after ∧
    visit.fault? (schedule.trouble after.requests) = none

section Made

variable {question : Nat} {before after : Surroundings} {visits : List Visit}
  {ending : Option CollectFault}

private theorem made_of_round {owner : ExpectedOwner} {directory : Path} {names : List String}
    (round : Round host schedule owner directory question before names visits ending after) :
    ∀ visit ∈ visits, visit.Made host schedule := by
  induction round with
  | done | unanswered | broken => nofun
  | visit answered visited whole rest ih =>
    exact List.forall_mem_cons.2 ⟨⟨_, _, visited, whole⟩, ih⟩

private theorem made_of_meets {root : Path} {stop? : Option Stop}
    (met : Meets host schedule collector question before root stop? ending after) :
    ∀ stop, stop? = some stop → ∀ visit ∈ stop.visits, visit.Made host schedule := by
  rintro stop rfl
  cases met with
  | missing | noLogs | unlisted => nofun
  | listed _ _ round => exact made_of_round round

/-- Every visit of a survey was made. -/
private theorem made_of_survey {roots : List Path} {stops : List Stop}
    (survey : Survey host schedule collector question before roots stops ending after) :
    ∀ stop ∈ stops, ∀ visit ∈ stop.visits, visit.Made host schedule := by
  induction survey with
  | done => nofun
  | last met => exact fun stop among => made_of_meets met stop (Option.mem_toList.1 among)
  | next met rest ih => exact List.forall_mem_cons.2 ⟨made_of_meets met _ rfl, ih⟩

end Made

/-- Every item that a collection leaves in its record fits. -/
theorem fits_of_produce (collector : Collector) (host : Host) (schedule : Schedule) (tree : FileTree)
    (queries : Nat) : ∀ item ∈ (left (collector.produce host schedule tree queries)).items,
      item.Fits := by
  obtain ⟨stops, ending, around, survey⟩ :=
    exists_survey host schedule collector collector.roots queries { tree := tree }
  obtain ⟨state, gone, -, gains⟩ :=
    forM_of_survey survey { tree := tree, queries := queries } rfl fun _ => rfl
  have items : (left (collector.produce host schedule tree queries)).items =
      stops.flatMap Stop.items := by
    rw [produce_eq, gone]
    cases ending <;> exact gains.items
  rw [items]
  intro item among
  obtain ⟨stop, inStops, among⟩ := List.mem_flatMap.1 among
  obtain ⟨visit, inVisits, among⟩ := List.mem_flatMap.1 among
  obtain ⟨_, _, -, whole⟩ := made_of_survey survey stop inStops visit inVisits
  exact Visit.fits_of_whole whole item among

/-- What a collection leaves after the stops that it made. -/
structure Accounts (owner : ExpectedOwner) (queries : Nat) (stops : List Stop)
    (ending : Option CollectFault) (collection : Collection) : Prop where
  value : collection.value = (stops.flatMap Stop.visits).flatMap Visit.bytes
  included : collection.report.included = (stops.flatMap Stop.marks).filterMap Mark.included?
  mismatches : collection.report.mismatches = (stops.flatMap Stop.marks).filterMap Mark.mismatch?
  skipped : collection.report.skipped = (stops.flatMap Stop.marks).filterMap Mark.skipped?
  missingRoots : collection.report.missingRoots = stops.filterMap Stop.missing?
  queries : collection.queries =
    asked owner queries ((stops.flatMap Stop.visits).length + pending ending)

private theorem bytesOfAll_items (stops : List Stop) :
    Archive.Item.bytesOfAll (stops.flatMap Stop.items) =
      (stops.flatMap Stop.visits).flatMap Visit.bytes := by
  rw [Archive.Item.bytesOfAll, List.flatMap_assoc, List.flatMap_assoc]
  congr 1
  funext stop
  rw [Stop.items, List.flatMap_assoc]
  congr 1
  funext visit
  exact visit.flatMap_bytes

/-- There is a survey of the roots, and as any survey goes, so goes the collection: it visits those
files, asks those questions and ends that way, and accounts for each visit in its record and in its
report. -/
theorem produce_surveys (collector : Collector) (host : Host) (schedule : Schedule)
    (tree : FileTree) (queries : Nat) :
    (∃ stops ending around,
      Survey host schedule collector queries { tree := tree } collector.roots stops ending around) ∧
    ∀ stops ending around,
      Survey host schedule collector queries { tree := tree } collector.roots stops ending around →
      ∃ collection, collector.produce host schedule tree queries = ended ending collection ∧
        collection.toSurroundings = around ∧
        Accounts collector.owner queries stops ending collection := by
  refine ⟨exists_survey host schedule collector collector.roots queries _,
    fun stops ending around survey => ?_⟩
  obtain ⟨state, made, reached, gains⟩ :=
    forM_of_survey survey { tree := tree, queries := queries } rfl fun _ => rfl
  have value : state.value = (stops.flatMap Stop.visits).flatMap Visit.bytes :=
    (congrArg Archive.Item.bytesOfAll gains.items).trans (bytesOfAll_items stops)
  have accounts : Accounts collector.owner queries stops ending state :=
    ⟨value, gains.included, gains.mismatches, gains.skipped, gains.missingRoots, gains.queries⟩
  rw [produce_eq, made]
  cases ending with
  | none =>
    exact ⟨summarized collector.container state, rfl, reached, accounts.value, accounts.included,
      accounts.mismatches, accounts.skipped, accounts.missingRoots, accounts.queries⟩
  | some fault => exact ⟨state, rfl, reached, accounts⟩

/-- Two log roots: below one a log file of the user, below the other a file of somebody else. -/
def twinTree : FileTree where
  nodes := [
    ⟨.directory [("logs", 1), ("more", 5)] 0, 0, 0o755⟩,
    ⟨.directory [("application_1_0002", 2)] 0, 0, 0o755⟩,
    ⟨.directory [("container_1_0002_03_000004", 3)] 1, 0, 0o755⟩,
    ⟨.directory [("stdout", 4)] 2, 0, 0o755⟩,
    ⟨.file [104, 105], 0, 0o644⟩,
    ⟨.directory [("application_1_0002", 6)] 0, 0, 0o755⟩,
    ⟨.directory [("container_1_0002_03_000004", 7)] 5, 0, 0o755⟩,
    ⟨.directory [("stderr", 8)] 6, 0, 0o755⟩,
    ⟨.file [1], 7, 0o644⟩]
  base := 0

def twinCollector : Collector :=
  ⟨[⟨"/", ["logs"]⟩, ⟨"/", ["more"]⟩], ⟨⟨1, 2⟩, 3, 4, none⟩, .fixed "root"⟩

/-- The user's own file stands in the record with its name and its content, the other one only as a
diagnostic. -/
theorem own_and_foreign_surveyed : ∃ stops around collection,
    Survey ⟨[(0, "root")], {}⟩ .quiet twinCollector 0 { tree := twinTree } twinCollector.roots stops
      none around ∧
    twinCollector.produce ⟨[(0, "root")], {}⟩ .quiet twinTree 0 = .ok () collection ∧
    Accounts twinCollector.owner 0 stops none collection ∧
    collection.value =
      [0, 0, 0, 6] ++ Text.Utf8.encode "stdout" ++ [0, 0, 0, 0, 0, 0, 0, 2] ++ [104, 105] ++
        ([255, 255, 255, 255] ++ [0, 0, 0, 115] ++ Text.Utf8.encode ("Owner '7' for path " ++
          "'/more/application_1_0002/container_1_0002_03_000004/stderr' " ++
          "did not match expected owner 'root'")) ∧
    collection.report.included = ["/logs/application_1_0002/container_1_0002_03_000004/stdout"] := by
  have run : (match twinCollector.produce ⟨[(0, "root")], {}⟩ .quiet twinTree 0 with
      | .ok _ collection => some (collection.value, collection.report.included)
      | .error _ _ => none) = some ([0, 0, 0, 6] ++ Text.Utf8.encode "stdout" ++
        [0, 0, 0, 0, 0, 0, 0, 2] ++ [104, 105] ++
        ([255, 255, 255, 255] ++ [0, 0, 0, 115] ++ Text.Utf8.encode ("Owner '7' for path " ++
          "'/more/application_1_0002/container_1_0002_03_000004/stderr' " ++
          "did not match expected owner 'root'")),
        ["/logs/application_1_0002/container_1_0002_03_000004/stdout"]) := by decide +kernel
  obtain ⟨⟨stops, ending, around, survey⟩, surveys⟩ :=
    produce_surveys twinCollector ⟨[(0, "root")], {}⟩ .quiet twinTree 0
  obtain ⟨collection, made, -, accounts⟩ := surveys stops ending around survey
  rw [made] at run
  cases ending with
  | some fault => cases run
  | none =>
    obtain ⟨value, included⟩ := Prod.mk.inj (Option.some.inj run)
    exact ⟨stops, around, collection, survey, made, accounts, value, included⟩

end ContainerLogs.Collector
