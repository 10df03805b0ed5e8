import ContainerLogs.Settings.Basic
import ContainerLogs.Text.Blank

/-!
Checking of written settings. All faults are reported, in the order of the fields. Unknown entries
are passed over; a missing one has its default. Log roots may be written as one text with commas.
-/
namespace ContainerLogs.Settings

inductive FaultKind where
  | notText | notList | notTable
  /-- A value of the right kind that the rules of its field turn down. -/
  | refused
  deriving DecidableEq, Repr

structure Fault where
  /-- The names and indices that lead to the value. -/
  path : List String
  kind : FaultKind
  deriving DecidableEq, Repr

def FaultKind.message : FaultKind → String
  | notText => "should be text"
  | notList => "should be a list"
  | notTable => "should be a table"
  | refused => "is not allowed"

def Fault.message (fault : Fault) : String :=
  ".".intercalate fault.path ++ " " ++ fault.kind.message

/-- A checked value, or all that is wrong with it. -/
abbrev Checked := Except (List Fault)

namespace Checked

def refuse {α : Type} (kind : FaultKind) : Checked α := .error [⟨[], kind⟩]

def faults {α : Type} : Checked α → List Fault
  | .ok _ => []
  | .error faults => faults

/-- Places the faults below a name. -/
def under {α : Type} (name : String) : Checked α → Checked α
  | .ok value => .ok value
  | .error faults => .error (faults.map fun fault => { fault with path := name :: fault.path })

def field {α : Type} (table : Table) (name : String) (default : α) (check : Value → Checked α) :
    Checked α :=
  match table.get? name with
  | none => .ok default
  | some value => under name (check value)

def both {α β : Type} : Checked α → Checked β → Checked (α × β)
  | .ok a, .ok b => .ok (a, b)
  | a, b => .error (a.faults ++ b.faults)

end Checked

open Checked

def checkText : Value → Checked String
  | .text value => .ok value
  | _ => refuse .notText

def checkTexts : (index : Nat) → List Value → Checked (List String)
  | _, [] => .ok []
  | index, value :: rest =>
      (both (under (Text.decimal index) (checkText value)) (checkTexts (index + 1) rest)).map
        fun (text, texts) => text :: texts

def checkTable : Value → Checked Table
  | .table entries => .ok entries
  | _ => refuse .notTable

/-- The parts of a text between commas, trimmed, without the blank ones. -/
def splitRoots (text : String) : List String :=
  ((List.splitOn ',' text.toList).map fun part => String.ofList (Text.trimChars part)).filter
    (· ≠ "")

def isBlankText (text : String) : Bool := Text.trim text = ""

def checkRootList (items : List Value) : Checked (List String) := do
  let roots ← checkTexts 0 items
  if roots.any isBlankText then refuse .refused else .ok roots

def checkRoots : Value → Checked (List String)
  | .text value => .ok (splitRoots value)
  | .list items => checkRootList items
  | _ => refuse .notList

def checkLevel (value : Value) : Checked Severity := do
  match Severity.threshold? (← checkText value) with
  | some level => .ok level
  | none => refuse .refused

def checkFormat (value : Value) : Checked LogFormat := do
  match LogFormat.ofName? (← checkText value) with
  | some format => .ok format
  | none => refuse .refused

def checkAggregation (value : Value) : Checked AggregationSettings := do
  let table ← checkTable value
  let (roots, archive, node) ← both (field table "log_roots" [] checkRoots)
    (both (field table "archive_dir" "" checkText) (field table "node_id" "" checkText))
  .ok ⟨roots, archive, node⟩

def checkCluster (value : Value) : Checked ClusterSettings := do
  let table ← checkTable value
  let defaults : ClusterSettings := {}
  let (client, admin, scheduler) ← both (field table "address" defaults.address checkText)
    (both (field table "admin_address" defaults.adminAddress checkText)
      (field table "scheduler_address" defaults.schedulerAddress checkText))
  .ok ⟨client, admin, scheduler⟩

def checkLogging (value : Value) : Checked LogSettings := do
  let table ← checkTable value
  let defaults : LogSettings := {}
  let (level, format) ← both (field table "level" defaults.level checkLevel)
    (field table "format" defaults.format checkFormat)
  .ok ⟨level, format⟩

def check (value : Value) : Checked Settings := do
  let table ← checkTable value
  let (aggregation, cluster, logging) ← both (field table "aggregation" {} checkAggregation)
    (both (field table "cluster" {} checkCluster) (field table "logging" {} checkLogging))
  .ok ⟨aggregation, cluster, logging⟩

end ContainerLogs.Settings
