import ContainerLogs.Proofs.Archive.Conduct

/-!
How a reader goes on. At a place where a record may start, the grammar tells what the next step does:
it hands out a record, passes over a reserved one, finds the end, or fails. The standing that it
leaves is true again, whatever happened, so all that is said of one step is true of every run.
-/
namespace ContainerLogs.Archive.Reader

open Running
open Session (Fits)

variable {archive : String} {bytes : Bytes} {reader : Reader}

private theorem leaveCurrent_of_none (h : reader.current = none) :
    leaveCurrent reader = .ok () reader := by
  unfold leaveCurrent
  rw [get_bind, h]
  rfl

private theorem next?_of_left {between : Reader} (left : leaveCurrent reader = .ok () between)
    (current : between.current = none) : next? reader = next? between := by
  unfold next?
  rw [bind_of_ok left, bind_of_ok (leaveCurrent_of_none current)]

private theorem next?_congr {other : Reader} (h : reader.current = none) (h' : other.current = none)
    (same : findRecord? reader = findRecord? other) : next? reader = next? other := by
  unfold next?
  rw [bind_of_ok (leaveCurrent_of_none h), bind_of_ok (leaveCurrent_of_none h')]
  simp only [bind, EStateM.bind, same]

private theorem next?_of_none {after : Reader} (h : reader.current = none)
    (found : findRecord? reader = .ok none after) : next? reader = .ok none after := by
  unfold next?
  rw [bind_of_ok (leaveCurrent_of_none h), bind_of_ok found]
  rfl

private theorem next?_of_error {fault : ReadFault} {after : Reader} (h : reader.current = none)
    (failed : findRecord? reader = .error fault after) : next? reader = .error fault after := by
  unfold next?
  rw [bind_of_ok (leaveCurrent_of_none h), bind_of_error failed]

/-- The reader that hands out a value of a length, numbered after those before it. -/
def handing (length : Nat) (reader : Reader) : Reader :=
  { reader with
    values := reader.values.push ⟨length, length⟩
    current := some reader.values.size }

private theorem next?_of_some {header : Header} {after : Reader} (h : reader.current = none)
    (found : findRecord? reader = .ok (some header) after) : next? reader =
      .ok (some (⟨some header.name⟩, after.values.size)) (after.handing header.length) := by
  unfold next?
  rw [bind_of_ok (leaveCurrent_of_none h), bind_of_ok found]
  rfl

namespace AtRecord

private theorem move (h : AtRecord archive bytes reader) (source : Source) :
    AtRecord archive source.rest { reader with source } :=
  ⟨h.isOpen, h.path, rfl, h.current, h.spent⟩

private theorem readHeader? (h : AtRecord archive bytes reader) {header? : Option Header}
    {source : Source} (read : Header.read? archive reader.source = .ok header? source) :
    Reader.readHeader? reader = .ok header? { reader with source } := by
  unfold Reader.readHeader?
  rw [if_pos h.isOpen, h.path, read]

private theorem handing (h : AtRecord archive bytes reader) {length missing : Nat}
    {unread behind : Bytes} (split : bytes = unread ++ behind)
    (whole : length = unread.length + missing) (ended : missing ≠ 0 → behind = []) :
    InValue archive reader.values.size length unread missing behind (reader.handing length) where
  isOpen := h.isOpen
  path := h.path
  rest := h.rest.trans split
  ended := ended
  current := rfl
  value := by simp [Reader.handing, ← whole]
  spent := by
    intro other value apart found
    refine h.spent other value ?_
    rw [Reader.handing, Array.getElem?_push, if_neg apart] at found
    exact found

theorem next?_at_end (h : AtRecord archive [] reader) : ∃ after,
    next? reader = .ok none after ∧ AtRecord archive [] after ∧ after.values = reader.values := by
  obtain ⟨source, read, rest⟩ := Header.read?_at_end archive h.rest
  refine ⟨{ reader with source }, ?_, rest ▸ h.move source, rfl⟩
  apply next?_of_none h.current
  rw [findRecord?_eq, h.readHeader? read]

theorem next?_of_malformed {fault : ReadFault} (malformed : Malformed archive bytes fault)
    (h : AtRecord archive bytes reader) : ∃ bytes' after,
    next? reader = .error fault after ∧ AtRecord archive bytes' after ∧
      (fault.isPremature = true → bytes' = []) := by
  obtain ⟨source, failed, nothing⟩ := Header.read?_of_malformed (h.rest ▸ malformed)
  refine ⟨source.rest, { reader with source }, ?_, h.move source, nothing⟩
  apply next?_of_error h.current
  have header : Reader.readHeader? reader = .error fault { reader with source } := by
    unfold Reader.readHeader?
    rw [if_pos h.isOpen, h.path, failed]
  rw [findRecord?_eq, header]

private theorem readHeader?_of_header {header : Header} {present : Bytes} (inRange : header.InRange)
    (h : AtRecord archive (header.bytes ++ present) reader) : ∃ headed,
    AtRecord archive present headed ∧ Reader.readHeader? reader = .ok (some header) headed ∧
      headed.values = reader.values := by
  obtain ⟨source, read, rest⟩ := Header.read?_of_bytes archive inRange h.rest
  exact ⟨{ reader with source }, rest ▸ h.move source, h.readHeader? read, rfl⟩

/-- A record that speaks of a container is handed out under its name, also where the archive ends in
its value. -/
theorem next?_of_container {header : Header} {unread behind : Bytes} {missing : Nat}
    (inRange : header.InRange) (plain : isReserved header.name = false)
    (whole : header.length = unread.length + missing) (ended : missing ≠ 0 → behind = [])
    (h : AtRecord archive (header.bytes ++ (unread ++ behind)) reader) : ∃ handed,
    next? reader = .ok (some (⟨some header.name⟩, reader.values.size)) handed ∧
      InValue archive reader.values.size header.length unread missing behind handed ∧
      handed.values = reader.values.push ⟨header.length, header.length⟩ := by
  obtain ⟨headed, stands, read, same⟩ := h.readHeader?_of_header inRange
  rw [← same]
  refine ⟨headed.handing header.length, ?_, stands.handing rfl whole ended, rfl⟩
  apply next?_of_some h.current
  rw [findRecord?_eq, read]
  simp only [plain, Bool.false_eq_true, if_false]

/-- A reserved record is passed over, as if the reader stood behind it. -/
theorem next?_of_reserved {header : Header} {value behind : Bytes} (inRange : header.InRange)
    (reserved : isReserved header.name = true) (whole : value.length = header.length)
    (h : AtRecord archive (header.bytes ++ (value ++ behind)) reader) : ∃ beyond,
    AtRecord archive behind beyond ∧ next? reader = next? beyond ∧
      beyond.values = reader.values := by
  obtain ⟨headed, stands, read, same⟩ := h.readHeader?_of_header inRange
  have holds : Window.Holds ⟨headed.source, ⟨header.length, header.length⟩, headed.isOpen⟩ value
      behind := ⟨stands.isOpen, stands.rest, whole.symm⟩
  obtain ⟨window, drained, holds', -⟩ := holds.drain
  have skipped : skip header.length headed = .ok () { headed with source := window.source } := by
    unfold skip
    rw [drained]
  have beyond := stands.move window.source
  rw [holds'.rest] at beyond
  refine ⟨_, beyond, next?_congr h.current beyond.current ?_, same⟩
  rw [findRecord?_eq, read]
  simp only [reserved, if_true, skipped]

/-- A reserved record that is cut off is found out while it is passed over. -/
theorem next?_of_cut {header : Header} {present : Bytes} (inRange : header.InRange)
    (reserved : isReserved header.name = true) (short : present.length < header.length)
    (h : AtRecord archive (header.bytes ++ present) reader) : ∃ after,
    next? reader =
        .error (.valueEnded (header.length - present.length) header.length) after ∧
      AtRecord archive [] after := by
  obtain ⟨headed, stands, read, -⟩ := h.readHeader?_of_header inRange
  have lacks : Window.Lacks ⟨headed.source, ⟨header.length, header.length⟩, headed.isOpen⟩ present
      (header.length - present.length) :=
    ⟨stands.isOpen, stands.rest, show header.length = _ by omega, by omega⟩
  obtain ⟨window, failed, lacks', -⟩ := lacks.drain
  have unskipped : skip header.length headed =
      .error (.valueEnded (header.length - present.length) header.length)
        { headed with source := window.source } := by
    unfold skip
    rw [failed]
  have after := stands.move window.source
  rw [lacks'.rest] at after
  refine ⟨_, ?_, after⟩
  apply next?_of_error h.current
  rw [findRecord?_eq, read]
  simp only [reserved, if_true, unskipped]

end AtRecord

namespace InValue

variable {number length missing : Nat} {unread : Bytes}

/-- What is left of a whole value is skipped, and the next record is looked for behind it. -/
theorem next?_eq (h : InValue archive number length unread 0 bytes reader) : ∃ beyond,
    AtRecord archive bytes beyond ∧ next? reader = next? beyond ∧
      beyond.values = reader.values.setIfInBounds number ⟨length, 0⟩ := by
  obtain ⟨window, drained, holds, same⟩ := h.holds.drain
  have skipped := h.putBack holds.rest holds.remaining (same.trans h.length_eq)
  have finished : window.value = ⟨length, 0⟩ := by
    rw [← same.trans h.length_eq, ← show window.value.remaining = 0 from holds.remaining]
  refine ⟨{ reader.putBack number window with current := none },
    ⟨skipped.isOpen, skipped.path, skipped.rest, rfl, ?_⟩, next?_of_left ?_ rfl, ?_⟩
  · intro other value found
    by_cases own : other = number
    · subst own
      rw [skipped.value] at found
      rw [← Option.some.inj found]
      rfl
    · exact skipped.spent other value own found
  · unfold leaveCurrent
    rw [get_bind, h.current]
    exact bind_of_ok (onValue_of_ok drained) _
  · rw [← finished]
    rfl

/-- A value that is cut off is never left behind. -/
theorem next?_of_cut (h : InValue archive number length unread missing bytes reader)
    (cut : missing ≠ 0) : ∃ after, next? reader = .error (.valueEnded missing length) after ∧
      InValue archive number length [] missing bytes after := by
  obtain ⟨window, failed, lacks, same⟩ := (h.lacks cut).drain
  rw [h.length_eq] at failed same
  have drained : onValue number Window.drain reader =
      .error (.valueEnded missing length) (reader.putBack number window) := by
    simp only [onValue, failed]
  refine ⟨_, ?_, h.putBack ?_ lacks.remaining same⟩
  · unfold next?
    apply bind_of_error
    unfold leaveCurrent
    rw [get_bind, h.current]
    exact bind_of_error drained _
  · rw [lacks.rest, h.ended cut]
    rfl

end InValue

/-- Where a reader may stand, by what comes behind the current value, if there is one. -/
inductive Standing (archive : String) (bytes : Bytes) (reader : Reader) : Prop where
  | atRecord (h : AtRecord archive bytes reader)
  | inValue {number length missing : Nat} {unread : Bytes}
      (h : InValue archive number length unread missing bytes reader)

/-- A read that asks for nothing. -/
def Use.isEmptyRead : Use → Bool
  | next => false
  | read asked => asked.demand = some 0

/-- What is true of the answer to every use, by what came behind the current value before and what
comes there now. -/
structure Sound (bytes : Bytes) (use : Use) (answer : Answer) (bytes' : Bytes) : Prop where
  corrupt : ∀ fault, answer = .failed fault → fault.isCorrupt = true
  /-- Where nothing comes behind the current value, nothing ever will. -/
  exhausted : bytes = [] → bytes' = [] ∧ ∀ key number, answer ≠ .record key number
  /-- Bytes that ended too early were the last ones. -/
  premature : ∀ fault, answer = .failed fault → fault.isPremature = true →
    use.isEmptyRead = false → bytes' = []

private theorem Sound.of_piece (bytes piece : Bytes) (use : Use) :
    Sound bytes use (.piece piece) bytes where
  corrupt := nofun
  exhausted nothing := ⟨nothing, nofun⟩
  premature := nofun

private theorem Sound.of_nothing (bytes : Bytes) (use : Use) : Sound bytes use .nothing [] where
  corrupt := nofun
  exhausted _ := ⟨rfl, nofun⟩
  premature := nofun

private theorem Sound.of_record {bytes behind : Bytes} (some_left : bytes ≠ []) (use : Use)
    (key : Key) (number : Nat) : Sound bytes use (.record key number) behind where
  corrupt := nofun
  exhausted nothing := absurd nothing some_left
  premature := nofun

private theorem Sound.of_failed {bytes bytes' : Bytes} {use : Use} {fault : ReadFault}
    (corrupt : fault.isCorrupt = true) (exhausted : bytes = [] → bytes' = [])
    (premature : fault.isPremature = true → use.isEmptyRead = false → bytes' = []) :
    Sound bytes use (.failed fault) bytes' where
  corrupt := by
    rintro _ ⟨⟩
    exact corrupt
  exhausted nothing := ⟨exhausted nothing, nofun⟩
  premature := by
    rintro _ ⟨⟩
    exact premature

private theorem append_ne_nil {front : Bytes} (some_left : front ≠ []) (back : Bytes) :
    front ++ back ≠ [] := by
  intro nothing
  exact some_left (List.append_eq_nil_iff.1 nothing).1

private theorem AtRecord.next_sound {records : List (String × Bytes)} {tail : Tail}
    (parsed : Parsed archive bytes records tail) (h : AtRecord archive bytes reader) :
    ∃ bytes', Standing archive bytes' (Use.next.run reader).2 ∧
      Sound bytes .next (Use.next.run reader).1 bytes' := by
  induction parsed generalizing reader with
  | clean =>
    obtain ⟨after, nothing, stands, -⟩ := h.next?_at_end
    simp only [Use.run, nothing, Answer.ofNext]
    exact ⟨[], .atRecord stands, .of_nothing _ _⟩
  | @cut header present inRange short =>
    have some_left := append_ne_nil header.bytes_ne_nil present
    cases reserved : isReserved header.name with
    | false =>
      have split : header.bytes ++ present = header.bytes ++ (present ++ []) := by simp
      rw [split] at h
      obtain ⟨handed, next, stands, -⟩ := h.next?_of_container inRange reserved
        (show header.length = present.length + (header.length - present.length) by omega)
        fun _ => rfl
      simp only [Use.run, next, Answer.ofNext]
      exact ⟨[], .inValue stands, .of_record some_left _ _ _⟩
    | true =>
      obtain ⟨after, failed, stands⟩ := h.next?_of_cut inRange reserved short
      simp only [Use.run, failed, Answer.ofNext]
      exact ⟨[], .atRecord stands, .of_failed rfl (fun _ => rfl) fun _ _ => rfl⟩
  | broken malformed =>
    obtain ⟨bytes', after, failed, stands, nothing⟩ := h.next?_of_malformed malformed
    simp only [Use.run, failed, Answer.ofNext]
    refine ⟨bytes', .atRecord stands, .of_failed malformed.isCorrupt ?_ fun ends _ => nothing ends⟩
    intro none_left
    exact absurd none_left malformed.ne_nil
  | @record name value bytes records tail fit parsed ih =>
    have inRange := Header.inRange_of_fits fit
    rw [Header.recordBytes_eq, List.append_assoc] at h ⊢
    have some_left := append_ne_nil (Header.bytes_ne_nil ⟨name, value.length⟩) (value ++ bytes)
    cases reserved : isReserved name with
    | false =>
      obtain ⟨handed, next, stands, -⟩ := h.next?_of_container inRange reserved
        (show value.length = value.length + 0 from rfl) (absurd rfl)
      simp only [Use.run, next, Answer.ofNext]
      exact ⟨bytes, .inValue stands, .of_record some_left _ _ _⟩
    | true =>
      obtain ⟨beyond, stands, same, -⟩ := h.next?_of_reserved inRange reserved rfl
      obtain ⟨bytes', standing, sound⟩ := ih stands
      have passed : Use.next.run reader = Use.next.run beyond := by simp only [Use.run, same]
      rw [passed]
      exact ⟨bytes', standing, sound.corrupt, fun nothing => absurd nothing some_left,
        sound.premature⟩

/-- Whatever is asked of a reader, it stands where it knows, and answers soundly. -/
private theorem Standing.run (h : Standing archive bytes reader) (use : Use) :
    ∃ bytes', Standing archive bytes' (use.run reader).2 ∧
      Sound bytes use (use.run reader).1 bytes' := by
  cases use with
  | next =>
    cases h with
    | atRecord h =>
      obtain ⟨records, tail, parsed⟩ := exists_parsed archive bytes
      exact h.next_sound parsed
    | @inValue number length missing unread h =>
      by_cases cut : missing = 0
      · subst cut
        obtain ⟨beyond, stands, same, -⟩ := h.next?_eq
        have left : Use.next.run reader = Use.next.run beyond := by simp only [Use.run, same]
        obtain ⟨records, tail, parsed⟩ := exists_parsed archive bytes
        rw [left]
        exact stands.next_sound parsed
      · obtain ⟨after, failed, stands⟩ := h.next?_of_cut cut
        have nothing := h.ended cut
        simp only [Use.run, failed, Answer.ofNext]
        exact ⟨bytes, .inValue stands, .of_failed rfl id fun _ _ => nothing⟩
  | read read =>
    simp only [Use.run]
    cases h with
    | atRecord h =>
      rw [h.read]
      exact ⟨bytes, .atRecord h, .of_piece _ _ _⟩
    | @inValue number length missing unread h =>
      by_cases own : read.number = number
      · subst own
        obtain ⟨unread', served, stands⟩ := h.read read.demand
        generalize read.run reader = result at served stands
        obtain ⟨answer, after⟩ := result
        refine ⟨bytes, .inValue stands, ?_⟩
        cases served with
        | some => exact .of_piece _ _ _
        | emptyRead empty unfinished =>
          refine .of_failed rfl id fun _ demanding => ?_
          exact absurd empty (of_decide_eq_false demanding)
        | cutShort cut => exact .of_failed rfl id fun _ _ => h.ended cut
      · rw [h.read_other own]
        exact ⟨bytes, .inValue h, .of_piece _ _ _⟩

private theorem Standing.afterAll (h : Standing archive bytes reader) (uses : List Use) :
    ∃ bytes', Standing archive bytes' (afterAll uses reader) := by
  induction uses generalizing reader bytes with
  | nil => exact ⟨bytes, h⟩
  | cons use uses ih =>
    obtain ⟨bytes', stands, -⟩ := h.run use
    exact ih stands

/-- Nothing but bytes at fault makes a use fail. -/
def FailsCorrupt (reader : Reader) : Prop :=
  ∀ uses, ∀ exchange ∈ exchanges uses reader, ∀ fault, exchange.2 = .failed fault →
    fault.isCorrupt = true

theorem Standing.failsCorrupt (h : Standing archive bytes reader) : FailsCorrupt reader := by
  intro uses
  induction uses generalizing reader bytes with
  | nil => nofun
  | cons use uses ih =>
    obtain ⟨bytes', stands, sound⟩ := h.run use
    exact List.forall_mem_cons.2 ⟨sound.corrupt, ih stands⟩

/-- No record is handed out any more, whatever is asked. -/
def Silent (reader : Reader) : Prop :=
  ∀ uses, ∀ exchange ∈ exchanges uses reader, ∀ key number, exchange.2 ≠ .record key number

theorem Standing.silent (h : Standing archive [] reader) : Silent reader := by
  intro uses
  induction uses generalizing reader with
  | nil => nofun
  | cons use uses ih =>
    obtain ⟨bytes', stands, sound⟩ := h.run use
    obtain ⟨rfl, noRecord⟩ := sound.exhausted rfl
    exact List.forall_mem_cons.2 ⟨noRecord, ih stands⟩

/-- Once the bytes are known to have ended too early, no record is handed out any more. Empty reads
do not tell: they fail wherever a value is not read to its end. -/
def EndsForGood (reader : Reader) : Prop :=
  ∀ (uses : List Use) (use : Use) (fault : ReadFault) (after : Reader),
    use.run (afterAll uses reader) = (.failed fault, after) → fault.isPremature = true →
    use.isEmptyRead = false → Silent after

theorem Standing.endsForGood (h : Standing archive bytes reader) : EndsForGood reader := by
  intro uses use fault after failed premature demanding
  obtain ⟨bytes', stands⟩ := h.afterAll uses
  obtain ⟨bytes'', stands', sound⟩ := stands.run use
  rw [failed] at stands' sound
  obtain rfl := sound.premature fault rfl premature demanding
  exact stands'.silent

end ContainerLogs.Archive.Reader
