import ContainerLogs.Archive.Key
import ContainerLogs.Archive.Value

/-!
Reading an archive front to back. Each record is a key and a value behind their lengths; the leading
records under reserved names describe the archive and are taken in when it is opened, later ones are
passed over. All values share the archive's file: a value may be read only until the next record is
asked for, which first skips what is left of it.
-/
namespace ContainerLogs.Archive

structure Reader where
  path : String
  source : Source
  isOpen : Bool := true
  version : Option Int := none
  owner : Option String := none
  /-- Every value handed out so far. -/
  values : Array Value := #[]
  /-- The number of the value that the next record comes after. -/
  current : Option Nat := none

/-- The key and the value's length that a record starts with. -/
structure Header where
  name : String
  length : Nat
  deriving DecidableEq, Repr

namespace Header

def decodeName (archive : String) (bytes : Bytes) : Reading Source String := fun rest =>
  match Text.Utf8.decode? bytes with
  | some name => .ok name rest
  | none => .error (.undecodableKey archive) rest

/-- The next header, if the archive is not at its end. -/
def read? (archive : String) : Reading Source (Option Header) := do
  match ← Feed.readIntOrEnd with
  | none => pure none
  | some (.negSucc n) => throw (.negativeKey (.negSucc n) archive)
  | some (.ofNat keyLength) =>
      let bytes ← Feed.readExact keyLength
      let name ← decodeName archive bytes
      match ← Feed.readLong with
      | .negSucc n => throw (.negativeValue (.negSucc n) archive)
      | .ofNat length => pure (some ⟨name, length⟩)

theorem rest_of_decodeName {archive name : String} {bytes : Bytes} {before after : Source}
    (decoded : decodeName archive bytes before = .ok name after) : after = before := by
  unfold decodeName at decoded
  split at decoded
  · cases decoded
    rfl
  · cases decoded

theorem size_of_read? {archive : String} {before after : Source} {header : Header}
    (read : read? archive before = .ok (some header) after) :
    after.rest.length + 12 ≤ before.rest.length := by
  obtain ⟨first, between, start, read⟩ := Reading.bind_eq_ok.1 read
  match first, start, read with
  | none, _, read => exact absurd (Reading.pure_eq_ok.1 read).1 (by simp)
  | some (.negSucc _), _, read => exact absurd read Reading.throw_ne_ok
  | some (.ofNat _), start, read =>
      obtain ⟨bytes, between, exact, read⟩ := Reading.bind_eq_ok.1 read
      obtain ⟨name, between', decoded, read⟩ := Reading.bind_eq_ok.1 read
      obtain ⟨length, between'', long, read⟩ := Reading.bind_eq_ok.1 read
      have startSize := Feed.size_of_readIntOrEnd start
      have nameSize := Feed.size_of_readExact exact
      have longSize := Feed.size_of_readLong long
      have unchanged := rest_of_decodeName decoded
      match length, read with
      | .negSucc _, read => exact absurd read Reading.throw_ne_ok
      | .ofNat _, read =>
          obtain ⟨_, rfl⟩ := Reading.pure_eq_ok.1 read
          simp only [Feed.left, unchanged] at *
          omega

end Header

namespace Reader

/-- Takes in a reserved record that stands before all others. -/
def describe (header : Header) (value : Bytes) (reader : Reader) : Except ReadFault Reader :=
  if header.name = versionName then
    if value.length = Wire.intWidth then
      .ok { reader with version := some (Wire.signedOf value) }
    else .error (.malformedVersion reader.path)
  else .ok { reader with owner := some (Text.Utf8.decodeLenient value) }

/-- Takes in the leading reserved records; the first other record is left unread. -/
def takePreamble (reader : Reader) : Except ReadFault Reader :=
  match _read : Header.read? reader.path reader.source with
  | .error fault _ => .error fault
  | .ok none source => .ok { reader with source := source }
  | .ok (some header) source =>
      if isReserved header.name then
        match _value : Feed.readExact header.length source with
        | .error fault _ => .error fault
        | .ok value source =>
            match describe header value reader with
            | .error fault => .error fault
            | .ok described => takePreamble { described with source := source }
      else .ok { reader with source := source.rewound reader.source }
termination_by reader.source.rest.length
decreasing_by
  have headerSize := Header.size_of_read? _read
  have valueSize := Feed.size_of_readExact _value
  simp only [Feed.left] at *
  omega

/-- Opens an archive of the given bytes. -/
def ofBytes (path : String) (bytes : Bytes) : Except ReadFault Reader :=
  takePreamble { path := path, source := { rest := bytes } }

/-- Takes notice of what the archive's file holds by now. -/
def refresh (content : Bytes) (reader : Reader) : Reader :=
  { reader with source := reader.source.refresh content }

/-- A value handed out before, or one that never was, which is empty. -/
def window (reader : Reader) (number : Nat) : Window :=
  ⟨reader.source, (reader.values[number]?).getD ⟨0, 0⟩, reader.isOpen⟩

def putBack (reader : Reader) (number : Nat) (window : Window) : Reader :=
  { reader with
    source := window.source
    values := reader.values.setIfInBounds number window.value }

/-- Runs a reading of the value with that number. -/
def onValue {α : Type} (number : Nat) (reading : Reading Window α) : Reading Reader α :=
  fun reader =>
    match reading (reader.window number) with
    | .ok a window => .ok a (reader.putBack number window)
    | .error fault window => .error fault (reader.putBack number window)

/-- Skips what is left of the current value; if that fails it stays current. -/
def leaveCurrent : Reading Reader Unit := do
  match (← get).current with
  | none => pure ()
  | some number =>
      onValue number Window.drain
      modify fun reader => { reader with current := none }

def readHeader? : Reading Reader (Option Header) := fun reader =>
  if reader.isOpen then
    match Header.read? reader.path reader.source with
    | .ok header? source => .ok header? { reader with source := source }
    | .error fault source => .error fault { reader with source := source }
  else .error (.archiveClosed reader.path) reader

/-- Passes over the value of a record that is not handed out. -/
def skip (length : Nat) : Reading Reader Unit := fun reader =>
  match Window.drain ⟨reader.source, ⟨length, length⟩, reader.isOpen⟩ with
  | .ok _ window => .ok () { reader with source := window.source }
  | .error fault window => .error fault { reader with source := window.source }

theorem size_of_readHeader? {before after : Reader} {header : Header}
    (read : readHeader? before = .ok (some header) after) :
    after.source.rest.length < before.source.rest.length := by
  unfold readHeader? at read
  split at read
  · split at read
    · rename_i found
      cases read
      have := Header.size_of_read? found
      simp only
      omega
    · cases read
  · cases read

theorem rest_of_skip {length : Nat} {before after : Reader}
    (skipped : skip length before = .ok () after) :
    after.source.rest = before.source.rest.drop length := by
  unfold skip at skipped
  split at skipped
  · rename_i drained
    cases skipped
    exact Window.rest_of_drain drained
  · cases skipped

/-- The header of the next container record. -/
def findRecord? (reader : Reader) : EStateM.Result ReadFault Reader (Option Header) :=
  match _read : readHeader? reader with
  | .error fault reader => .error fault reader
  | .ok none reader => .ok none reader
  | .ok (some header) headed =>
      if isReserved header.name then
        match _skipped : skip header.length headed with
        | .error fault reader => .error fault reader
        | .ok () beyond => findRecord? beyond
      else .ok (some header) headed
termination_by reader.source.rest.length
decreasing_by
  have headerSize := size_of_readHeader? _read
  simp only [rest_of_skip _skipped, List.length_drop]
  omega

/-- Goes on to the next container record: its key and the number of its value, or nothing at the
end. -/
def next? : Reading Reader (Option (Key × Nat)) := do
  leaveCurrent
  match ← findRecord? with
  | none => pure none
  | some header => do
      let number := (← get).values.size
      modify fun reader =>
        { reader with
          values := reader.values.push ⟨header.length, header.length⟩
          current := some number }
      pure (some (⟨some header.name⟩, number))

/-- The keys and value lengths of at most `count` further records, and what stopped the reading. -/
def listRecords : (count : Nat) → Reader → List (Key × Nat) × Option ReadFault × Reader
  | 0, reader => ([], none, reader)
  | count + 1, reader =>
      match next? reader with
      | .error fault reader => ([], some fault, reader)
      | .ok none reader => ([], none, reader)
      | .ok (some record) reader =>
          let (records, stopped) := listRecords count reader
          (record :: records, stopped)

def close (reader : Reader) : Reader := { reader with isOpen := false, current := none }

end Reader

end ContainerLogs.Archive
