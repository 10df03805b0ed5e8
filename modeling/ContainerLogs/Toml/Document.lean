import ContainerLogs.Toml.Value

/-!
TOML documents: lines of entries, and headers that say which table the entries after them belong to.
A table may be opened by a header once, a list of tables grows by one with each of its headers, and
what an array or an inline table holds can no longer be added to.
-/
namespace ContainerLogs.Toml

open Settings (Value)

abbrev KeyPath := List String

/-- A document under construction. -/
structure Draft where
  entries : Entries := []
  /-- The table that entries go to. -/
  header : KeyPath := []
  /-- Keys that no header may open again. -/
  opened : List KeyPath := []
  /-- Keys of arrays and inline tables, which are complete. -/
  complete : List KeyPath := []
  /-- Keys to count as opened from the next header on. -/
  pending : List KeyPath := []

namespace Draft

def isOpened (draft : Draft) (key : KeyPath) : Bool := draft.opened.contains key

def isSealed (draft : Draft) (key : KeyPath) : Bool := Toml.isSealed draft.complete key

/-- What a header does to the draft before it is looked at. -/
def settle (draft : Draft) : Draft :=
  { draft with opened := draft.pending ++ draft.opened, pending := [] }

/-- Opens the table under a key. -/
def openTable (draft : Draft) (key : KeyPath) : Except Fault Draft := do
  if draft.isOpened key ∨ draft.isSealed key then .error .malformed
  else
    let entries ← Entries.changeAt true .ok key draft.entries
    .ok { draft with entries, header := key, opened := key :: draft.opened }

/-- Adds an empty table to the list under a name. -/
def grow (name : String) (entries : Entries) : Except Fault Entries :=
  match entries.get? name with
  | none => .ok ((name, .tables [[]]) :: entries)
  | some (.tables list) => .ok (Entries.replace name (.tables ([] :: list)) entries)
  | some _ => .error .malformed

/-- Opens a new table at the end of the list under a key; what is below the key may be opened anew.
-/
def openListed (draft : Draft) (key : KeyPath) : Except Fault Draft := do
  if draft.isSealed key then .error .malformed
  else
    let free (held : KeyPath) : Bool := ¬ key.isPrefixOf held
    let entries ← Entries.changeAt true (grow (key.getLast?.getD "")) key.dropLast draft.entries
    .ok { draft with
      entries
      header := key
      opened := key :: draft.opened.filter free
      complete := draft.complete.filter free }

/-- The keys of the tables that a dotted key names on its way. -/
def passed (header : KeyPath) (key : KeyPath) : List KeyPath :=
  (List.range (key.length - 1)).map fun i => header ++ key.take (i + 1)

/-- Adds an entry under the current header. -/
def addEntry (draft : Draft) (key : KeyPath) (value : Value) : Except Fault Draft := do
  let way := passed draft.header key
  let parent := draft.header ++ key.dropLast
  if way.any draft.isOpened ∨ (parent ≠ [] ∧ draft.isSealed parent) then .error .malformed
  else
    let add := Entries.add (key.getLast?.getD "") (.complete value)
    let entries ← Entries.changeAt true add parent draft.entries
    .ok { draft with
      entries
      pending := way ++ draft.pending
      complete :=
        if isContainer value then (draft.header ++ key) :: draft.complete else draft.complete }

end Draft

/-- An entry in a text of fewer than `bound` characters. Every second step into a value takes a
character at least. -/
def readEntry (bound : Nat) (draft : Draft) (chars : List Char) : Except Fault (Taken Draft) := do
  let (key, rest) ← Key.read bound chars
  match rest with
  | '=' :: rest =>
      let (value, rest) ← readValue (2 * bound) nestingRoom (skipSpaces rest)
      .ok (← draft.addEntry key value, rest)
  | _ => .error .malformed

def readTableHeader (bound : Nat) (draft : Draft) (chars : List Char) :
    Except Fault (Taken Draft) := do
  let (key, rest) ← Key.read bound (skipSpaces chars)
  let draft ← draft.settle.openTable key
  match rest with
  | ']' :: rest => .ok (draft, rest)
  | _ => .error .malformed

def readListHeader (bound : Nat) (draft : Draft) (chars : List Char) :
    Except Fault (Taken Draft) := do
  let (key, rest) ← Key.read bound (skipSpaces chars)
  let draft ← draft.settle.openListed key
  match rest with
  | ']' :: ']' :: rest => .ok (draft, rest)
  | _ => .error .malformed

/-- A header or an entry; comments and the ends of lines are left to the caller. -/
def readStatement (bound : Nat) (draft : Draft) : List Char → Except Fault (Taken Draft)
  | '[' :: '[' :: rest => readListHeader bound draft rest
  | '[' :: rest => readTableHeader bound draft rest
  | chars => readEntry bound draft chars

/-- The rest after what may stand at the end of a line: blanks and a comment. -/
def skipLineEnd (chars : List Char) : Except Fault (List Char) :=
  match skipSpaces chars with
  | '#' :: rest => skipComment rest
  | rest => .ok rest

/-- The statements of a text of fewer than `bound` characters, each on a line of its own. -/
def readLines : (bound : Nat) → Draft → List Char → Except Fault Draft
  | 0, draft, _ => .ok draft
  | bound + 1, draft, chars => do
      let (draft, rest) ←
        match skipSpaces chars with
        | [] => .ok (draft, [])
        | '#' :: rest => .ok (draft, '#' :: rest)
        | '\n' :: rest => .ok (draft, '\n' :: rest)
        | chars => readStatement (bound + 1) draft chars
      match ← skipLineEnd rest with
      | [] => .ok draft
      | '\n' :: rest => readLines bound draft rest
      | _ => .error .malformed

/-- Line ends of two characters count as one. -/
def withPlainNewlines : List Char → List Char
  | [] => []
  | '\r' :: '\n' :: rest => '\n' :: withPlainNewlines rest
  | c :: rest => c :: withPlainNewlines rest

/-- The table that a document holds. -/
def read (text : String) : Except Fault Settings.Table :=
  let chars := withPlainNewlines text.toList
  (readLines (chars.length + 1) {} chars).map fun draft => draft.entries.table

end ContainerLogs.Toml
