import ContainerLogs.FileTree.Operation
import ContainerLogs.Log.Line

/-!
Opening a log file for the user who should own it. The file is opened first and the owner of what
was opened is compared, so what is read afterwards is what was checked, whatever its name leads to
by then.
-/
namespace ContainerLogs

/-- User names by number. -/
abbrev Users := List (Int × String)

/-- The name of a user, or the number of one without a name. -/
def Users.nameOf (users : Users) (user : Int) : String :=
  match users.find? (·.1 = user) with
  | some (_, name) => name
  | none => Text.decimal user

/-- A file that belongs to another user than expected. -/
structure OwnershipMismatch where
  path : String
  actual : String
  expected : String
  deriving DecidableEq, Repr

def OwnershipMismatch.message (mismatch : OwnershipMismatch) : String :=
  "Owner '" ++ mismatch.actual ++ "' for path '" ++ mismatch.path ++
    "' did not match expected owner '" ++ mismatch.expected ++ "'"

inductive Opening where
  /-- The number of an open file whose owner is the expected one. -/
  | granted (number : Nat)
  | mismatch (mismatch : OwnershipMismatch)
  deriving DecidableEq, Repr

namespace Opening

def refuseIrregular (path : String) : Refusal :=
  .os .invalid (some "Not a regular file") [path]

/-- Opens a path that leads to a regular file: the number of the file and the name of its owner. -/
def openRegular (tree : FileTree) (users : Users) (path : String) :
    Except Refusal (Nat × String) := do
  let number ← tree.openNode path
  match tree.node? number with
  | some ⟨.file _, owner, _⟩ => .ok (number, users.nameOf owner)
  | _ => .error (refuseIrregular path)

def judge (path expected : String) (number : Nat) (actual : String) : Opening :=
  if actual = expected then granted number else mismatch ⟨path, actual, expected⟩

/-- Opens a path and checks that it led to a regular file of the expected owner. -/
def attempt (tree : FileTree) (users : Users) (path expected : String) :
    Except Refusal Opening := do
  let (number, actual) ← openRegular tree users path
  .ok (judge path expected number actual)

def logger : String := "logarchive.archive.ownership"

/-- What the log says of an opening. -/
def records : Opening → List LogRecord
  | granted _ => []
  | mismatch found => [{
      severity := .warning
      logger := logger
      message := "Owner " ++ Text.quoted found.actual ++ " for path " ++ found.path ++
        " did not match expected owner " ++ Text.quoted found.expected }]

end Opening

end ContainerLogs
