import ContainerLogs.Proofs.Text.Blank
import ContainerLogs.Proofs.Toml.Document
import ContainerLogs.Settings.Store

/-!
Checked settings under an environment. Settings that passed a check pass it again in the form of a
table, and what the environment sets replaces its own field and no other.
-/
namespace ContainerLogs

open Toml (IsBare IsPlain IsPlainTable AreSections ofSections)

namespace Settings

/-- What a check makes sure of. -/
structure Valid (settings : Settings) : Prop where
  roots : ∀ root ∈ settings.aggregation.logRoots, isBlankText root = false
  level : settings.logging.level ∈ Severity.thresholds

namespace Checked

private theorem both_eq_ok {α β : Type} {first : Checked α} {second : Checked β} {a : α} {b : β}
    (made : both first second = .ok (a, b)) : first = .ok a ∧ second = .ok b := by
  cases first <;> cases second <;> cases made
  exact ⟨rfl, rfl⟩

/-- A checked field has its default or a value that passed. -/
private theorem field_eq_ok {α : Type} {table : Table} {name : String} {default a : α}
    {check : Value → Checked α} (made : field table name default check = .ok a) :
    a = default ∨ ∃ value, check value = .ok a := by
  unfold field at made
  cases found : table.get? name with
  | none =>
    rw [found] at made
    cases made
    exact .inl rfl
  | some value =>
    rw [found] at made
    cases checked : check value with
    | ok b =>
      simp only [checked, under] at made
      cases made
      exact .inr ⟨value, checked⟩
    | error faults =>
      simp only [checked, under] at made
      cases made

end Checked

open Checked

private theorem isBlankText_of_mem_splitRoots {text root : String}
    (among : root ∈ splitRoots text) :
    isBlankText root = false := by
  obtain ⟨among, nonempty⟩ := List.mem_filter.1 among
  obtain ⟨part, -, rfl⟩ := List.mem_map.1 among
  have hasChars : Text.trimChars part ≠ [] := by simpa using nonempty
  have still := Text.trimBy_trimBy_ne_nil hasChars
  simpa [isBlankText, Text.trim, Text.trimChars] using still

private theorem blank_of_checkRoots {value : Value} {roots : List String}
    (checked : checkRoots value = .ok roots) : ∀ root ∈ roots, isBlankText root = false := by
  unfold checkRoots at checked
  split at checked
  · cases checked
    exact fun root => isBlankText_of_mem_splitRoots
  · simp only [checkRootList, bind, Except.bind] at checked
    split at checked
    · cases checked
    · split at checked
      · cases checked
      · rename_i none
        cases checked
        simpa using none
  · cases checked

private theorem threshold_of_checkLevel {value : Value} {level : Severity}
    (checked : checkLevel value = .ok level) : level ∈ Severity.thresholds := by
  simp only [checkLevel, bind, Except.bind] at checked
  split at checked
  · cases checked
  · split at checked
    · rename_i found
      cases checked
      exact List.mem_of_find?_eq_some found
    · cases checked

private theorem blank_of_checkAggregation {value : Value} {settings : AggregationSettings}
    (checked : checkAggregation value = .ok settings) :
    ∀ root ∈ settings.logRoots, isBlankText root = false := by
  simp only [checkAggregation, bind, Except.bind] at checked
  split at checked
  · cases checked
  · split at checked
    · cases checked
    · rename_i read
      cases checked
      rcases field_eq_ok (both_eq_ok read).1 with default | ⟨value, roots⟩
      · simp [default]
      · exact blank_of_checkRoots roots

private theorem threshold_of_checkLogging {value : Value} {settings : LogSettings}
    (checked : checkLogging value = .ok settings) : settings.level ∈ Severity.thresholds := by
  simp only [checkLogging, bind, Except.bind] at checked
  split at checked
  · cases checked
  · split at checked
    · cases checked
    · rename_i read
      cases checked
      rcases field_eq_ok (both_eq_ok read).1 with default | ⟨value, level⟩
      · simp [default, Severity.thresholds]
      · exact threshold_of_checkLevel level

/-- Settings that passed a check are valid. -/
theorem valid_of_check {value : Value} {settings : Settings} (checked : check value = .ok settings) :
    settings.Valid := by
  simp only [check, bind, Except.bind] at checked
  split at checked
  · cases checked
  · split at checked
    · cases checked
    · rename_i read
      cases checked
      obtain ⟨aggregation, others⟩ := both_eq_ok read
      obtain ⟨-, logging⟩ := both_eq_ok others
      constructor
      · rcases field_eq_ok aggregation with default | ⟨value, checked⟩
        · simp [default]
        · exact blank_of_checkAggregation checked
      · rcases field_eq_ok logging with default | ⟨value, checked⟩
        · simp [default, Severity.thresholds]
        · exact threshold_of_checkLogging checked

/-- The form as a table of settings of which four fields are written in some way. -/
def tableWith (settings : Settings) (roots archive node level : Value) : Table :=
  ofSections [
    ("aggregation", [("log_roots", roots), ("archive_dir", archive), ("node_id", node)]),
    ("cluster", ofCluster settings.cluster),
    ("logging", [("level", level), ("format", .text settings.logging.format.name)])]

private theorem table_eq (settings : Settings) : settings.table = settings.tableWith
    (.list (settings.aggregation.logRoots.map .text)) (.text settings.aggregation.archiveDir)
    (.text settings.aggregation.nodeId) (.text settings.logging.level.name) := rfl

section Overlay

variable (settings : Settings) (roots archive node level : Value)

private theorem setIn_roots (value : String) : setIn (settings.tableWith roots archive node level)
    "aggregation" "log_roots" value =
      some (settings.tableWith (.text value) archive node level) := by
  simp [setIn, tableWith, ofSections, Table.get?, Table.set]

private theorem setIn_archive (value : String) : setIn (settings.tableWith roots archive node level)
    "aggregation" "archive_dir" value =
      some (settings.tableWith roots (.text value) node level) := by
  simp [setIn, tableWith, ofSections, Table.get?, Table.set]

private theorem setIn_node (value : String) : setIn (settings.tableWith roots archive node level)
    "aggregation" "node_id" value =
      some (settings.tableWith roots archive (.text value) level) := by
  simp [setIn, tableWith, ofSections, Table.get?, Table.set]

private theorem setIn_level (value : String) : setIn (settings.tableWith roots archive node level)
    "logging" "level" value =
      some (settings.tableWith roots archive node (.text value)) := by
  simp [setIn, tableWith, ofSections, Table.get?, Table.set]

/-- A value, or the text of a variable that is set. -/
def textOr (environment : Environment) (source : String) (value : Value) : Value :=
  match environment.get? source with
  | none => value
  | some text => .text text

/-- Each variable that is set takes the place of its own field. -/
private theorem overlay_tableWith (environment : Environment) :
    overlay environment (settings.tableWith roots archive node level) =
      some (settings.tableWith (textOr environment "LOGARCHIVE_LOG_ROOTS" roots)
        (textOr environment "LOGARCHIVE_ARCHIVE_DIR" archive)
        (textOr environment "LOGARCHIVE_NODE_ID" node)
        (textOr environment "LOGARCHIVE_LOG_LEVEL" level)) := by
  simp only [overlay, overrides, List.foldlM_cons, List.foldlM_nil, textOr]
  cases environment.get? "LOGARCHIVE_LOG_ROOTS" <;>
    cases environment.get? "LOGARCHIVE_ARCHIVE_DIR" <;>
    cases environment.get? "LOGARCHIVE_NODE_ID" <;>
    cases environment.get? "LOGARCHIVE_LOG_LEVEL" <;>
    simp [setIn_roots, setIn_archive, setIn_node, setIn_level]

end Overlay

private theorem checkTexts_texts (index : Nat) (texts : List String) :
    checkTexts index (texts.map .text) = .ok texts := by
  induction texts generalizing index with
  | nil => rfl
  | cons text texts ih => simp [checkTexts, checkText, under, both, ih, Except.map]

private theorem checkRoots_texts {roots : List String}
    (filled : ∀ root ∈ roots, isBlankText root = false) :
    checkRoots (.list (roots.map .text)) = .ok roots := by
  have none_blank : roots.any isBlankText = false := by
    rw [List.any_eq_false]
    intro root among
    simp [filled root among]
  simp [checkRoots, checkRootList, checkTexts_texts, bind, Except.bind, none_blank]

/-- Settings written as a table are found valid again, unless their level is no threshold. -/
private theorem check_tableWith (settings : Settings) {written : Value} {roots : List String}
    (filled : checkRoots written = .ok roots) (archive node level : String) :
    check (.table (settings.tableWith written (.text archive) (.text node) (.text level))) =
      match Severity.threshold? level with
      | some level => .ok ⟨⟨roots, archive, node⟩, settings.cluster, ⟨level, settings.logging.format⟩⟩
      | none => .error [⟨["logging", "level"], .refused⟩] := by
  have format : LogFormat.ofName? settings.logging.format.name = some settings.logging.format := by
    cases settings.logging.format <;> rfl
  have aggregation : checkAggregation (.table [("log_roots", written), ("archive_dir", .text archive),
      ("node_id", .text node)]) = .ok ⟨roots, archive, node⟩ := by
    simp [checkAggregation, checkTable, field, Table.get?, filled, checkText, under, both, bind,
      Except.bind]
  have cluster : checkCluster (.table (ofCluster settings.cluster)) = .ok settings.cluster := by
    simp [checkCluster, checkTable, field, Table.get?, ofCluster, checkText, under, both, bind,
      Except.bind]
  cases threshold : Severity.threshold? level with
  | some level' =>
    have logging : checkLogging (.table [("level", .text level),
        ("format", .text settings.logging.format.name)]) =
          .ok ⟨level', settings.logging.format⟩ := by
      simp [checkLogging, checkTable, field, Table.get?, checkLevel, checkFormat, checkText, under,
        both, bind, Except.bind, threshold, format]
    simp [check, checkTable, tableWith, ofSections, field, Table.get?, aggregation, cluster, logging,
      under, both, bind, Except.bind]
  | none =>
    have logging : checkLogging (.table [("level", .text level),
        ("format", .text settings.logging.format.name)]) = .error [⟨["level"], .refused⟩] := by
      simp [checkLogging, checkTable, field, Table.get?, checkLevel, checkFormat, checkText, under,
        both, bind, Except.bind, threshold, format, refuse, faults]
    simp [check, checkTable, tableWith, ofSections, field, Table.get?, aggregation, cluster, logging,
      under, both, bind, Except.bind, faults]

/-- Settings with the environment laid over them: each variable that is set takes the place of its
field. There are none if the level that is named is no threshold. -/
def overlaid (environment : Environment) (settings : Settings) : Option Settings :=
  let roots := match environment.get? "LOGARCHIVE_LOG_ROOTS" with
    | none => settings.aggregation.logRoots
    | some text => splitRoots text
  let level? := match environment.get? "LOGARCHIVE_LOG_LEVEL" with
    | none => some settings.logging.level
    | some name => Severity.threshold? name
  level?.map fun level => {
    settings with
    aggregation := {
      logRoots := roots
      archiveDir := (environment.get? "LOGARCHIVE_ARCHIVE_DIR").getD settings.aggregation.archiveDir
      nodeId := (environment.get? "LOGARCHIVE_NODE_ID").getD settings.aggregation.nodeId }
    logging := { settings.logging with level } }

private theorem textOr_text (environment : Environment) (source text : String) :
    textOr environment source (.text text) = .text ((environment.get? source).getD text) := by
  unfold textOr
  cases environment.get? source <;> rfl

private theorem threshold?_name {level : Severity} (threshold : level ∈ Severity.thresholds) :
    Severity.threshold? level.name = some level := by
  revert level
  decide

/-- Valid settings in the form of a table come to the settings with the environment laid over them.
-/
theorem settle_table {settings : Settings} (valid : settings.Valid) (environment : Environment)
    (invalid : List Fault → StoreFault) : settle environment invalid settings.table =
      match overlaid environment settings with
      | some settings => .ok settings
      | none => .error (invalid [⟨["logging", "level"], .refused⟩]) := by
  have roots : checkRoots (textOr environment "LOGARCHIVE_LOG_ROOTS"
      (.list (settings.aggregation.logRoots.map .text))) =
        .ok (match environment.get? "LOGARCHIVE_LOG_ROOTS" with
          | none => settings.aggregation.logRoots
          | some text => splitRoots text) := by
    unfold textOr
    cases environment.get? "LOGARCHIVE_LOG_ROOTS" with
    | none => exact checkRoots_texts valid.roots
    | some text => rfl
  rw [settle, table_eq, overlay_tableWith]
  simp only [textOr_text]
  rw [check_tableWith settings roots]
  unfold overlaid
  cases environment.get? "LOGARCHIVE_LOG_LEVEL" with
  | none => simp [threshold?_name valid.level]
  | some name =>
    simp only [Option.getD_some]
    cases Severity.threshold? name <;> rfl

private theorem isPlainTable_ofAggregation (settings : AggregationSettings) :
    IsPlainTable (ofAggregation settings) := by
  refine .cons (by decide) (.list _) (by simp) ?_
  refine .cons (by decide) (.text _) (by simp) ?_
  exact .cons (by decide) (.text _) (by simp) .nil

private theorem isPlainTable_ofCluster (settings : ClusterSettings) :
    IsPlainTable (ofCluster settings) := by
  refine .cons (by decide) (.text _) (by simp) ?_
  refine .cons (by decide) (.text _) (by simp) ?_
  exact .cons (by decide) (.text _) (by simp) .nil

private theorem isPlainTable_ofLogging (settings : LogSettings) :
    IsPlainTable (ofLogging settings) := by
  refine .cons (by decide) (.text _) (by simp) ?_
  exact .cons (by decide) (.text _) (by simp) .nil

/-- Settings in the form of a table are sections of texts and lists of texts. -/
theorem areSections (settings : Settings) : AreSections settings.sections := by
  refine .cons (by decide) (isPlainTable_ofAggregation _) (by simp) ?_
  refine .cons (by decide) (isPlainTable_ofCluster _) (by simp) ?_
  exact .cons (by decide) (isPlainTable_ofLogging _) (by simp) .nil

/-- Settings are read from a document as they were written to it. -/
theorem read_write_table (settings : Settings) :
    Toml.read (Toml.write settings.table).text = .ok settings.table :=
  Toml.read_write settings.areSections

end Settings

end ContainerLogs
