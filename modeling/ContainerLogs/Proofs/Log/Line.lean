import ContainerLogs.Log.Line
import ContainerLogs.Proofs.Json.Document
import ContainerLogs.Proofs.Path

/-!
Records logged in JSON. Each line is plain and is read back as an object of just the fields that
were written, whatever their texts hold, and since no line breaks inside, the log falls into the
lines of its records again.
-/
namespace ContainerLogs.LogRecord

variable {settings : LogSettings}

private theorem newline_not_mem_oneLine (document : Json.Document) :
    '\n' ∉ document.oneLine.toList := by
  intro among
  rw [Json.Document.oneLine, String.toList_ofList] at among
  exact absurd (Json.isPlain_of_mem_line document _ among) (by decide)

/-- Below the threshold nothing is written, and else the record's line. -/
private theorem written_json (json : settings.format = .json) (time : String) (record : LogRecord) :
    (record.written settings time).toList =
      if settings.level.rank ≤ record.severity.rank then
        (record.document time).oneLine.toList ++ ['\n']
      else [] := by
  unfold written
  split
  · rw [json, line, String.toList_append]
    rfl
  · rfl

/-- What is logged falls into the lines of the records that reach the threshold. -/
theorem splitOn_written (json : settings.format = .json) (time : String)
    (records : List LogRecord) :
    List.splitOn '\n' (String.join (records.map (written settings time))).toList =
      (records.filter (settings.level.rank ≤ ·.severity.rank)).map
        (fun record => (record.document time).oneLine.toList) ++ [[]] := by
  rw [String.toList_join]
  induction records with
  | nil => rfl
  | cons record records ih =>
    rw [List.map_cons, List.flatMap_cons, written_json json]
    split
    · rename_i reached
      rw [List.append_assoc, List.singleton_append,
        List.splitOn_append_cons_self_of_not_mem (newline_not_mem_oneLine _), ih,
        List.filter_cons_of_pos (by simpa using reached)]
      rfl
    · rename_i below
      rw [List.nil_append, ih, List.filter_cons_of_neg (by simpa using below)]

/-- A line in JSON is plain and names its time, level, logger and message, and an exception exactly
if there is one, each as it was; a log in JSON holds one such line for each record that reaches its
threshold. -/
theorem decoded_lines :
    (∀ (time level logger message : String) (exception : Option String),
      (∀ c ∈ (entry time level logger message exception).oneLine.toList, ' ' ≤ c ∧ c ≤ '~') ∧
        Json.Document.read? (entry time level logger message exception).oneLine =
          some (.object ([("timestamp", .text time), ("level", .text level),
            ("logger", .text logger), ("message", .text message)] ++
              (exception.map fun text => ("exception", .text text)).toList))) ∧
      ∀ (threshold : Severity) (time : String) (records : List LogRecord),
        List.splitOn '\n'
            (String.join (records.map (written ⟨threshold, .json⟩ time))).toList =
          (records.filter (threshold.rank ≤ ·.severity.rank)).map (fun record =>
            (entry time record.severity.name record.loggerName record.message
              (record.incident.map Incident.text)).oneLine.toList) ++ [[]] := by
  refine ⟨fun time level logger message exception => ⟨fun c among => ?_, ?_⟩, ?_⟩
  · rw [Json.Document.oneLine, String.toList_ofList] at among
    exact Json.isPlain_of_mem_line _ c among
  · rw [Json.read?_oneLine]
    cases exception <;> rfl
  · exact fun threshold time records => splitOn_written rfl time records

end ContainerLogs.LogRecord
