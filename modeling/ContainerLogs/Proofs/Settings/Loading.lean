import ContainerLogs.Proofs.FileTree.Refusals
import ContainerLogs.Proofs.Settings.Store
import ContainerLogs.Proofs.Text.WellFormed

/-!
How loading settings fails. Most faults are faults of the configuration. The others come from the
directory of the default file, from a place of which it cannot be told whether anything is there, and
from a content that is no text, holds a number or a nesting beyond all bounds, or has something else
where the environment sets an entry of a section.
-/
namespace ContainerLogs.Settings

/-- Something else than a table stands where a section should. -/
def Blocked (table : Table) (heading : String) : Prop :=
  ∃ value, table.get? heading = some value ∧ ∀ entries, value ≠ .table entries

private theorem Table.get?_set_ne (table : Table) {name other : String} (value : Value)
    (ne : other ≠ name) : (table.set name value).get? other = table.get? other := by
  have replaced : (table.map fun entry => if entry.1 = name then (name, value) else entry).find?
      (·.1 = other) = table.find? (·.1 = other) := by
    induction table with
    | nil => rfl
    | cons entry rest ih =>
      rw [List.map_cons, List.find?_cons, List.find?_cons, ih]
      by_cases named : entry.1 = name
      · simp [named, Ne.symm ne]
      · simp [named]
  unfold Table.set Table.get?
  split
  · rw [replaced]
  · simp [List.find?_append, Ne.symm ne]

section Overlay

variable {table changed : Table} {heading name value : String}

private theorem setIn_eq_none_iff :
    setIn table heading name value = none ↔ Blocked table heading := by
  unfold setIn Blocked
  cases held : table.get? heading with
  | none => simp
  | some found => cases found <;> simp

/-- Setting an entry of one section neither blocks nor frees any. -/
private theorem blocked_setIn_iff (made : setIn table heading name value = some changed)
    (other : String) :
    Blocked changed other ↔ Blocked table other := by
  have free : ¬ Blocked table heading := by
    intro blocked
    rw [setIn_eq_none_iff.2 blocked] at made
    cases made
  obtain ⟨entries, rfl⟩ : ∃ entries, changed = table.set heading (.table entries) := by
    unfold setIn at made
    split at made
    · cases made
      exact ⟨_, rfl⟩
    · cases made
      exact ⟨_, rfl⟩
    · cases made
  by_cases same : other = heading
  · subst same
    refine iff_of_false ?_ free
    rintro ⟨found, held, others⟩
    rw [Table.get?_set_self] at held
    cases held
    exact others _ rfl
  · unfold Blocked
    rw [Table.get?_set_ne table _ same]

/-- A variable that is set and whose section is blocked. -/
def Obstructed (environment : Environment) (table : Table) (override : Override) : Prop :=
  (environment.get? override.source).isSome ∧ Blocked table override.heading

/-- The environment cannot be laid over settings exactly if one of its variables meets with something
else than a section. -/
private theorem overlay_eq_none_iff {environment : Environment} :
    overlay environment table = none ↔
      ∃ override ∈ overrides, Obstructed environment table override := by
  unfold overlay
  generalize overrides = list
  induction list generalizing table with
  | nil => simp [pure]
  | cons override rest ih =>
    simp only [List.foldlM_cons, List.mem_cons, exists_eq_or_imp]
    cases given : environment.get? override.source with
    | none =>
      have clear : ¬ Obstructed environment table override := by simp [Obstructed, given]
      simp only [bind, Option.bind, clear, false_or]
      exact ih
    | some value =>
      cases made : setIn table override.heading override.name value with
      | none =>
        have obstructed : Obstructed environment table override :=
          ⟨by simp [given], setIn_eq_none_iff.1 made⟩
        simp only [bind, Option.bind, made, obstructed, true_or]
      | some changed =>
        have clear : ¬ Obstructed environment table override := by
          rintro ⟨-, blocked⟩
          rw [setIn_eq_none_iff.2 blocked] at made
          cases made
        simp only [bind, Option.bind, made, clear, false_or]
        rw [ih]
        simp only [Obstructed, blocked_setIn_iff made]

end Overlay

/-- Why the content of a settings file cannot be used, other than by a fault of the configuration. -/
inductive Unusable (environment : Environment) (content : Bytes) : StoreFault → Prop where
  | notText (garbled : ∀ text, content ≠ Text.Utf8.encode text) :
      Unusable environment content .notText
  | oversizedNumber {text : String} (encoded : content = Text.Utf8.encode text)
      (oversized : Toml.read text = .error .oversizedNumber) :
      Unusable environment content .oversizedNumber
  | nestedTooDeep {text : String} (encoded : content = Text.Utf8.encode text)
      (deep : Toml.read text = .error .nestedTooDeep) :
      Unusable environment content .nestedTooDeep
  | notSection {text : String} {table : Table} {override : Override}
      (encoded : content = Text.Utf8.encode text) (read : Toml.read text = .ok table)
      (among : override ∈ overrides) (obstructed : Obstructed environment table override) :
      Unusable environment content .notSection

/-- Why settings are not loaded, other than by a fault of the configuration. -/
inductive Strays (surroundings : Surroundings) (path : Option Path) (before : FileTree) :
    StoreFault → FileTree → Prop where
  | unmade {refusal : Refusal} {after : FileTree} (default : path = none)
      (unset : surroundings.environment.get? pathVariable = none)
      (refused : before.makeDirectories surroundings.process (ownDirectory surroundings)
        directoryMode = (after, some refusal)) :
      Strays surroundings path before (.refused refusal) after
  | untold {place : Path} {after : FileTree} {errno : Errno}
      (chosen : pathOr surroundings path before = .ok place after)
      (barring : errno = .accessDenied ∨ errno = .nameTooLong)
      (untold : after.pathExists place.text = .error (.onPath errno place.text)) :
      Strays surroundings path before (.refused (.onPath errno place.text)) after
  | unusable {place : Path} {after : FileTree} {content : Bytes} {fault : StoreFault}
      (chosen : pathOr surroundings path before = .ok place after)
      (held : after.contentAt place.text = .ok content)
      (unusable : Unusable surroundings.environment content fault) :
      Strays surroundings path before fault after

section Content

variable {environment : Environment} {content : Bytes} {fault : StoreFault}

private theorem settle_error {table : Table} {invalid : List Fault → StoreFault}
    (invalidFault : ∀ faults, (invalid faults).isConfiguration = true)
    (stray : fault.isConfiguration = false) :
    settle environment invalid table = .error fault ↔
      fault = .notSection ∧ ∃ override ∈ overrides, Obstructed environment table override := by
  rw [← overlay_eq_none_iff]
  unfold settle
  cases laid : overlay environment table with
  | none => simp [eq_comm]
  | some table =>
    simp only [reduceCtorEq, and_false, iff_false]
    cases check (.table table) with
    | ok settings => simp
    | error faults =>
      intro refused
      cases refused
      rw [invalidFault] at stray
      cases stray

private theorem unusable_of_garbled (garbled : ∀ text, content ≠ Text.Utf8.encode text) :
    Unusable environment content fault ↔ fault = .notText := by
  constructor
  · intro unusable
    cases unusable with
    | notText => rfl
    | oversizedNumber encoded | nestedTooDeep encoded | notSection encoded =>
      exact absurd encoded (garbled _)
  · rintro rfl
    exact .notText garbled

section Text

variable {text : String} {table : Table} {failure : Toml.Fault}

private theorem unusable_of_read (read : Toml.read text = .ok table) :
    Unusable environment (Text.Utf8.encode text) fault ↔
      fault = .notSection ∧ ∃ override ∈ overrides, Obstructed environment table override := by
  constructor
  · intro unusable
    cases unusable with
    | notText garbled => exact absurd rfl (garbled text)
    | oversizedNumber encoded failed | nestedTooDeep encoded failed =>
      rw [← Text.Utf8.encode_injective encoded, read] at failed
      cases failed
    | @notSection _ _ override encoded read' among obstructed =>
      rw [← Text.Utf8.encode_injective encoded, read] at read'
      cases read'
      exact ⟨rfl, override, among, obstructed⟩
  · rintro ⟨rfl, override, among, obstructed⟩
    exact .notSection rfl read among obstructed

private theorem unusable_of_unread (failed : Toml.read text = .error failure) :
    Unusable environment (Text.Utf8.encode text) fault ↔
      (failure = .oversizedNumber ∧ fault = .oversizedNumber) ∨
        (failure = .nestedTooDeep ∧ fault = .nestedTooDeep) := by
  constructor
  · intro unusable
    cases unusable with
    | notText garbled => exact absurd rfl (garbled text)
    | oversizedNumber encoded failed' =>
      rw [← Text.Utf8.encode_injective encoded, failed] at failed'
      exact .inl ⟨Except.error.inj failed', rfl⟩
    | nestedTooDeep encoded failed' =>
      rw [← Text.Utf8.encode_injective encoded, failed] at failed'
      exact .inr ⟨Except.error.inj failed', rfl⟩
    | notSection encoded read =>
      rw [← Text.Utf8.encode_injective encoded, failed] at read
      cases read
  · rintro (⟨rfl, rfl⟩ | ⟨rfl, rfl⟩)
    · exact .oversizedNumber rfl failed
    · exact .nestedTooDeep rfl failed

end Text

/-- The content of a file is of use, or faulty as a configuration, unless it is unusable. -/
private theorem settled_error (path : String) (stray : fault.isConfiguration = false) :
    settled environment path content = .error fault ↔ Unusable environment content fault := by
  unfold settled parse
  cases decoded : Text.Utf8.decode? content with
  | none =>
    rw [unusable_of_garbled (Text.Utf8.decode?_eq_none.1 decoded)]
    simp [bind, Except.bind, eq_comm]
  | some text =>
    obtain rfl := Text.Utf8.decode?_eq_some.1 decoded
    cases read : Toml.read text with
    | ok table =>
      simp only [bind, Except.bind, read]
      rw [settle_error (fun _ => rfl) stray, unusable_of_read read]
    | error failure =>
      simp only [bind, Except.bind, read]
      rw [unusable_of_unread read]
      cases failure with
      | malformed =>
        refine iff_of_false ?_ (by simp)
        rintro ⟨⟩
        cases stray
      | oversizedNumber => simp [eq_comm]
      | nestedTooDeep => simp [eq_comm]

private theorem Unusable.isConfiguration_eq_false (unusable : Unusable environment content fault) :
    fault.isConfiguration = false := by
  cases unusable <;> rfl

end Content

variable {surroundings : Surroundings} {path : Option Path} {before after : FileTree}
  {fault : StoreFault}

theorem pathOr_of_refused {refusal : Refusal}
    (unset : surroundings.environment.get? pathVariable = none)
    (refused : before.makeDirectories surroundings.process (ownDirectory surroundings)
      directoryMode = (after, some refusal)) :
    pathOr surroundings none before = .error (.refused refusal) after := by
  have failed : makeDirectories surroundings.process (ownDirectory surroundings) directoryMode
      before = .error (.refused refusal) after := by
    simp [makeDirectories, refused]
  simp only [pathOr, defaultPath, unset]
  exact Running.bind_of_error failed _

/-- A place is only not to be had if it is the default and its directory cannot be made. -/
private theorem strays_of_pathOr (failed : pathOr surroundings path before = .error fault after) :
    Strays surroundings path before fault after := by
  cases path with
  | some path => cases failed
  | none =>
    cases unset : surroundings.environment.get? pathVariable with
    | some text =>
      simp only [pathOr, defaultPath, unset] at failed
      cases failed
    | none =>
      rcases made : before.makeDirectories surroundings.process (ownDirectory surroundings)
        directoryMode with ⟨between, _ | refusal⟩
      · have done : makeDirectories surroundings.process (ownDirectory surroundings) directoryMode
            before = .ok () between := by
          simp [makeDirectories, made]
        simp only [pathOr, defaultPath, unset] at failed
        rw [Running.bind_of_ok done] at failed
        cases failed
      · rw [pathOr_of_refused unset made] at failed
        cases failed
        exact .unmade rfl unset made

theorem load_of_unchosen (failed : pathOr surroundings path before = .error fault after) :
    load surroundings path before = .error fault after :=
  Running.bind_of_error failed _

private theorem load_of_strays (strays : Strays surroundings path before fault after) :
    load surroundings path before = .error fault after := by
  cases strays with
  | unmade default unset refused =>
    subst default
    exact load_of_unchosen (pathOr_of_refused unset refused)
  | untold chosen barring untold => rw [load_of_chosen chosen, untold]
  | @unusable place _ content _ chosen held unusable =>
    have settled := (settled_error place.text unusable.isConfiguration_eq_false).2 unusable
    rw [load_of_chosen chosen, FileTree.pathExists_of_contentAt held]
    simp only [held, settled]

/-- The step that loading settings ends at. -/
inductive Fails (surroundings : Surroundings) (path : Option Path) (before : FileTree) :
    StoreFault → FileTree → Prop where
  | unchosen {fault : StoreFault} {after : FileTree}
      (failed : pathOr surroundings path before = .error fault after) :
      Fails surroundings path before fault after
  | untold {place : Path} {after : FileTree} {refusal : Refusal}
      (chosen : pathOr surroundings path before = .ok place after)
      (untold : after.pathExists place.text = .error refusal) :
      Fails surroundings path before (.refused refusal) after
  | absent {place : Path} {after : FileTree}
      (chosen : pathOr surroundings path before = .ok place after)
      (absent : after.pathExists place.text = .ok false) :
      Fails surroundings path before (.notFound place.text) after
  | unread {place : Path} {after : FileTree} {refusal : Refusal}
      (chosen : pathOr surroundings path before = .ok place after)
      (present : after.pathExists place.text = .ok true)
      (unread : after.contentAt place.text = .error refusal) :
      Fails surroundings path before (readingFault place.text refusal) after
  | unsettled {place : Path} {after : FileTree} {content : Bytes} {fault : StoreFault}
      (chosen : pathOr surroundings path before = .ok place after)
      (held : after.contentAt place.text = .ok content)
      (unsettled : settled surroundings.environment place.text content = .error fault) :
      Fails surroundings path before fault after

private theorem fails_of_load (failed : load surroundings path before = .error fault after) :
    Fails surroundings path before fault after := by
  cases chosen : pathOr surroundings path before with
  | error other between =>
    rw [load_of_unchosen chosen] at failed
    cases failed
    exact .unchosen chosen
  | ok place between =>
    rw [load_of_chosen chosen] at failed
    split at failed
    · rename_i untold
      cases failed
      exact .untold chosen untold
    · rename_i absent
      cases failed
      exact .absent chosen absent
    · rename_i present
      split at failed
      · rename_i unread
        cases failed
        exact .unread chosen present unread
      · rename_i held
        split at failed
        · cases failed
        · rename_i unsettled
          cases failed
          exact .unsettled chosen held unsettled

/-- What is there but cannot be read is a fault of the configuration. -/
private theorem readingFault_eq {tree : FileTree} {text : String} {refusal : Refusal}
    (present : tree.pathExists text = .ok true) (unread : tree.contentAt text = .error refusal) :
    readingFault text refusal = .unreadable text refusal := by
  rcases FileTree.contentAt_error present unread with rfl | rfl <;> rfl

private theorem strays_of_fails (stray : fault.isConfiguration = false)
    (fails : Fails surroundings path before fault after) :
    Strays surroundings path before fault after := by
  cases fails with
  | unchosen failed => exact strays_of_pathOr failed
  | untold chosen untold =>
    rcases FileTree.examine_error untold with rfl | rfl
    · exact .untold chosen (.inl rfl) untold
    · exact .untold chosen (.inr rfl) untold
  | absent => cases stray
  | unread chosen present unread =>
    rw [readingFault_eq present unread] at stray
    cases stray
  | unsettled chosen held unsettled =>
    exact .unusable chosen held ((settled_error _ stray).1 unsettled)

/-- No content of a file makes it count as missing. -/
private theorem settled_ne_notFound {environment : Environment} {path text : String}
    {content : Bytes} :
    settled environment path content ≠ .error (.notFound text) := by
  unfold settled parse settle
  cases Text.Utf8.decode? content with
  | none => nofun
  | some decoded =>
    simp only [bind, Except.bind]
    cases Toml.read decoded with
    | error failure => cases failure <;> nofun
    | ok table =>
      simp only
      cases overlay environment table with
      | none => nofun
      | some table =>
        simp only
        cases check (.table table) <;> nofun

private theorem absent_of_fails {text : String} (failed : fault = .notFound text)
    (fails : Fails surroundings path before fault after) :
    ∃ place, pathOr surroundings path before = .ok place after ∧ text = place.text ∧
      after.pathExists place.text = .ok false := by
  cases fails with
  | unchosen unchosen =>
    cases strays_of_pathOr unchosen with
    | unmade | untold => cases failed
    | unusable chosen =>
      rw [unchosen] at chosen
      cases chosen
  | untold => cases failed
  | absent chosen absent =>
    cases failed
    exact ⟨_, chosen, rfl, absent⟩
  | unread chosen present unread =>
    rw [readingFault_eq present unread] at failed
    cases failed
  | unsettled chosen held unsettled =>
    subst failed
    exact absurd unsettled settled_ne_notFound

/-- Loading settings ends in a fault other than one of the configuration exactly for the reasons that
are told, and in a missing file exactly if nothing is there where it is looked for. -/
theorem load_strays_iff (surroundings : Surroundings) (path : Option Path) (before after : FileTree) :
    (∀ fault, fault.isConfiguration = false →
      (load surroundings path before = .error fault after ↔
        Strays surroundings path before fault after)) ∧
    ∀ text, load surroundings path before = .error (.notFound text) after ↔
      ∃ place, pathOr surroundings path before = .ok place after ∧ text = place.text ∧
        after.pathExists place.text = .ok false := by
  constructor
  · intro fault stray
    exact ⟨fun failed => strays_of_fails stray (fails_of_load failed), load_of_strays⟩
  · intro text
    constructor
    · exact fun failed => absent_of_fails rfl (fails_of_load failed)
    · rintro ⟨place, chosen, rfl, absent⟩
      rw [load_of_chosen chosen, absent]

/-- A file stands where the directory of the default settings file should. -/
def obstructedTree : FileTree where
  nodes := [⟨.directory [(".logarchive", 1)] 0, 0, 0o755⟩, ⟨.file [], 0, 0o644⟩]
  base := 0

theorem obstructed_settings_stray :
    load { home := "/" } none obstructedTree =
      .error (.refused (.onPath .alreadyExists "/.logarchive")) obstructedTree ∧
    load { home := "/" } (some (Path.ofText "c.toml")) obstructedTree =
      .error (.notFound "c.toml") obstructedTree := by
  constructor
  · have refused : obstructedTree.makeDirectories {} (ownDirectory { home := "/" }) directoryMode =
        (obstructedTree, some (.onPath .alreadyExists "/.logarchive")) := by decide +kernel
    exact ((load_strays_iff _ _ _ _).1 _ rfl).2 (.unmade rfl rfl refused)
  · have absent : obstructedTree.pathExists (Path.ofText "c.toml").text = .ok false := by
      rfl
    exact ((load_strays_iff _ _ _ _).2 _).2 ⟨Path.ofText "c.toml", rfl, by decide +kernel, absent⟩

/-- A working directory with a settings file that is no text. -/
def garbledTree : FileTree where
  nodes := [⟨.directory [("c.toml", 1)] 0, 0, 0o755⟩, ⟨.file [0xff], 0, 0o644⟩]
  base := 0

/-- A file that is no text is read without a fault of the configuration being told. -/
theorem garbled_settings_stray :
    load { home := "/" } (some (Path.ofText "c.toml")) garbledTree = .error .notText garbledTree ∧
      StoreFault.notText.isConfiguration = false := by
  have garbled := Text.Utf8.decode?_eq_none.1 (by decide : Text.Utf8.decode? [0xff] = none)
  refine ⟨load_of_strays (.unusable rfl ?_ (.notText garbled)), rfl⟩
  rfl

end ContainerLogs.Settings
