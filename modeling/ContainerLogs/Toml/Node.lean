import ContainerLogs.Settings.Value
import ContainerLogs.Toml.Text

/-!
Tables under construction. Entries are kept with the last one first, and so are the tables of a list
that grows with its headers; `Node.value` puts both in the order of the document.
-/
namespace ContainerLogs.Toml

open Settings (Value)

/-- What stands under a name of a document that is being read. -/
inductive Node where
  /-- A value to which nothing can be added. -/
  | complete (value : Value)
  | table (entries : List (String × Node))
  | tables (list : List (List (String × Node)))

/-- The entries of a table under construction, the last one first. -/
abbrev Entries := List (String × Node)

mutual

def Node.value : Node → Value
  | .complete value => value
  | .table entries => .table (Entries.values entries).reverse
  | .tables list => .list (Entries.tables list).reverse

def Entries.values : List (String × Node) → List (String × Value)
  | [] => []
  | (name, node) :: rest => (name, node.value) :: Entries.values rest

def Entries.tables : List (List (String × Node)) → List Value
  | [] => []
  | entries :: rest => .table (Entries.values entries).reverse :: Entries.tables rest

end

namespace Entries

/-- The table that the entries make. -/
def table (entries : Entries) : Settings.Table := (values entries).reverse

def get? (entries : Entries) (name : String) : Option Node :=
  (entries.find? (·.1 = name)).map (·.2)

/-- Changes what stands under a name that is in use. -/
def replace (name : String) (node : Node) : Entries → Entries
  | [] => []
  | entry :: rest =>
      if entry.1 = name then (name, node) :: rest else entry :: replace name node rest

/-- Adds a node under a name that is free. -/
def add (name : String) (node : Node) (entries : Entries) : Except Fault Entries :=
  match entries.get? name with
  | none => .ok ((name, node) :: entries)
  | some _ => .error .malformed

/-- Changes the table at a path, making the tables that are missing on the way. With `throughLists`
the last table of a list stands for the list. -/
def changeAt (throughLists : Bool) (change : Entries → Except Fault Entries) :
    (path : List String) → Entries → Except Fault Entries
  | [], entries => change entries
  | name :: path, entries => do
      match entries.get? name with
      | none => .ok ((name, .table (← changeAt throughLists change path [])) :: entries)
      | some (.table inner) =>
          .ok (replace name (.table (← changeAt throughLists change path inner)) entries)
      | some (.tables (last :: earlier)) =>
          if throughLists then
            let last ← changeAt throughLists change path last
            .ok (replace name (.tables (last :: earlier)) entries)
          else .error .malformed
      | some _ => .error .malformed

theorem get?_cons_self (name : String) (node : Node) (entries : Entries) :
    get? ((name, node) :: entries) name = some node := by
  simp [get?]

end Entries

end ContainerLogs.Toml
