import ContainerLogs.Proofs.Log.Line

/-!
Messages made of templates. A template of texts and plain places shows the texts as they are and
each value in its place, if there are as many values as places; a log holds a line for each event
whose values fit.
-/
namespace ContainerLogs

namespace LogArguments

/-- A text as a template writes it, each percent sign twice. -/
def escapedChars (text : List Char) : List Char :=
  text.flatMap fun c => if c = '%' then ['%', '%'] else [c]

/-- The template of a plain place after each of the texts, and a last text. -/
def templateChars (texts : List (List Char)) (last : List Char) : List Char :=
  texts.flatMap (fun text => escapedChars text ++ ['%', 's']) ++ escapedChars last

/-- The texts, each followed by the text that its place shows, and the last text. -/
def filledChars (texts shown : List (List Char)) (last : List Char) : List Char :=
  (texts.zip shown).flatMap (fun (text, shown) => text ++ shown) ++ last

variable (arguments : LogArguments) (rest : List Char)

@[simp] theorem fill?_percent :
    arguments.fill? ('%' :: '%' :: rest) = (arguments.fill? rest).map ('%' :: ·) := by
  rw [fill?]

private theorem fill?_cons {c : Char} (ordinary : c ≠ '%') :
    arguments.fill? (c :: rest) = (arguments.fill? rest).map (c :: ·) := by
  rw [fill?]
  · exact fun _ start => absurd start ordinary
  · exact ordinary

/-- Texts stand in the message as they are. -/
private theorem fill?_escaped (text : List Char) :
    arguments.fill? (escapedChars text ++ rest) = (arguments.fill? rest).map (text ++ ·) := by
  induction text with
  | nil => simp [escapedChars]
  | cons c text ih =>
    have unfolded : escapedChars (c :: text) ++ rest =
        (if c = '%' then ['%', '%'] else [c]) ++ (escapedChars text ++ rest) := by
      rw [escapedChars, List.flatMap_cons, List.append_assoc]
      rfl
    rw [unfolded]
    split
    · rename_i percent
      subst percent
      simp only [List.cons_append, List.nil_append, fill?_percent, ih, Option.map_map]
      rfl
    · rename_i ordinary
      simp only [List.cons_append, List.nil_append, fill?_cons _ _ ordinary, ih, Option.map_map]
      rfl

end LogArguments

namespace LogDirective

/-- A plain place is read up to its letter. -/
private theorem read?_plain (rest : List Char) :
    read? ('s' :: rest) = some ({ letter := 's' }, rest) := by
  cases rest <;> rfl

/-- A plain place shows the next value as text. -/
private theorem fill?_plain (arguments : LogArguments) :
    fill? { letter := 's' } arguments =
      arguments.next?.map fun (value, left) => (value.plain.toList, left) := by
  obtain ⟨table, pending⟩ := arguments
  cases pending with
  | nil => rfl
  | cons value pending =>
    have whole : LogPlace.shown? { form := .text } value = some value.plain.toList := by
      simp [LogPlace.shown?, LogPlace.textChars, LogPlace.padded, LogPlace.startsLeft, Text.padLeft]
    simp [fill?, LogArguments.select?, size?, LogForm.ofLetter?, LogArguments.next?, whole]

end LogDirective

namespace LogArguments

private theorem fill?_place (arguments : LogArguments) (rest : List Char) :
    arguments.fill? ('%' :: 's' :: rest) =
      arguments.next?.bind fun (value, left) =>
        (left.fill? rest).map (value.plain.toList ++ ·) := by
  have rest_read := LogDirective.read?_plain rest
  rw [fill?]
  · split
    · rename_i unread
      rw [rest_read] at unread
      cases unread
    · rename_i read
      rw [rest_read] at read
      cases read
      rw [LogDirective.fill?_plain]
      cases arguments.next? with
      | none => rfl
      | some taken =>
        obtain ⟨value, left⟩ := taken
        cases held : left.fill? rest <;> simp [held]
  · simp

/-- Values that are taken one after the other fill a template exactly if there is one for each of
its places. -/
private theorem fill?_template (values : List Settings.Value) (texts : List (List Char))
    (last : List Char) :
    fill? { pending := values } (templateChars texts last) =
      if values.length = texts.length then
        some (filledChars texts (values.map (·.plain.toList)) last)
      else none := by
  induction texts generalizing values with
  | nil =>
    have ended := fill?_escaped { pending := values } [] last
    rw [List.append_nil] at ended
    rw [templateChars, List.flatMap_nil, List.nil_append, ended, fill?]
    cases values <;> simp [isSpent, filledChars]
  | cons text texts ih =>
    have unfolded : templateChars (text :: texts) last =
        escapedChars text ++ '%' :: 's' :: templateChars texts last := by
      simp [templateChars]
    rw [unfolded, fill?_escaped, fill?_place]
    cases values with
    | nil => simp [next?]
    | cons value values =>
      simp only [next?, Option.bind_some, ih, List.length_cons, Nat.add_right_cancel_iff]
      split <;> simp [filledChars]

end LogArguments

namespace LogEvent

/-- Values that are given no names, one for each place, make the message of a template; with more
or fewer of them there is none. -/
theorem message?_template (event : LogEvent) {texts : List (List Char)} {last : List Char}
    (template : event.template = String.ofList (LogArguments.templateChars texts last))
    (given : event.arguments ≠ []) (unnamed : ∀ table, event.arguments ≠ [.table table]) :
    event.message? =
      if event.arguments.length = texts.length then
        some (String.ofList
          (LogArguments.filledChars texts (event.arguments.map (·.plain.toList)) last))
      else none := by
  have inTurn : LogArguments.ofList event.arguments = { pending := event.arguments } := by
    unfold LogArguments.ofList
    split
    · rename_i sole
      exact absurd sole (unnamed _)
    · rfl
  rw [message?, if_neg (by simpa using given), template, String.toList_ofList, inTurn,
    LogArguments.fill?_template]
  split <;> rfl

/-- An event adds what its record adds, if its values fit, and else nothing. -/
private theorem join_written (settings : LogSettings) (time : String) (events : List LogEvent) :
    String.join (events.map (written (some settings) time)) =
      String.join ((events.filterMap record?).map (LogRecord.written settings time)) := by
  apply String.toList_inj.1
  rw [String.toList_join, String.toList_join]
  induction events with
  | nil => rfl
  | cons event events ih =>
    rw [List.map_cons, List.flatMap_cons, ih]
    cases made : event.record? with
    | none => simp [written, made]
    | some record => simp [written, made]

/-- A log in JSON holds one line for each event whose values fit its template and that reaches the
threshold, in order, and nothing of the others. -/
theorem splitOn_written {settings : LogSettings} (json : settings.format = .json) (time : String)
    (events : List LogEvent) :
    List.splitOn '\n' (String.join (events.map (written (some settings) time))).toList =
      ((events.filterMap record?).filter (settings.level.rank ≤ ·.severity.rank)).map
        (fun record => (record.document time).oneLine.toList) ++ [[]] := by
  rw [join_written, LogRecord.splitOn_written json]

end LogEvent

end ContainerLogs
