import ContainerLogs.Collection.Ownership
import ContainerLogs.Collection.Schedule

/-!
What a collection works in: the file tree as it is by now, how far the schedule of the changes to it
has come, and which files were opened.
-/
namespace ContainerLogs

/-- A file that was opened, whose owner was compared with the expected one. -/
structure Comparison where
  number : Nat
  actual : String
  expected : String
  deriving DecidableEq, Repr

structure Surroundings where
  tree : FileTree
  /-- How many requests were made of the tree. -/
  requests : Nat := 0
  /-- Whether a directory was listed already. -/
  listed : Bool := false
  comparisons : List Comparison := []

namespace Surroundings

/-- Lets others act before the next request. -/
def await (schedule : Schedule) (around : Surroundings) : Surroundings :=
  { around with
    tree := Act.performAll around.tree (schedule.meanwhile around.requests)
    requests := around.requests + 1 }

/-- Lets others act before each of so many requests. -/
def awaitTimes (schedule : Schedule) : Nat → Surroundings → Surroundings
  | 0, around => around
  | count + 1, around => (awaitTimes schedule count around).await schedule

/-- Makes the changes that wait for the first listing. -/
def afterListing (schedule : Schedule) (around : Surroundings) : Surroundings × Option Refusal :=
  if around.listed then (around, none)
  else
    let (tree, refusal?) := Change.applyAll around.tree schedule.afterListing
    ({ around with tree, listed := true }, refusal?)

def note (comparison : Comparison) (around : Surroundings) : Surroundings :=
  { around with comparisons := around.comparisons ++ [comparison] }

end Surroundings

end ContainerLogs
