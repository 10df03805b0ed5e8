import ContainerLogs.Text.CellWidth

/-!
Text in terminal cells. Characters without a width share the cells of the character before them, a
joiner takes the next character in as well, and an emoji selector makes a narrow emoji wide. No
character of a text is lost in its clusters.
-/
namespace ContainerLogs.Text

/-- The columns of a text after others. `widens` says whether the last character with a width is one
that an emoji selector makes wide. -/
def cellsAfter (widens : Bool) : List Char → Nat
  | [] => 0
  | [c] =>
      if c = joiner then 0
      else if c = emojiSelector then (if widens then 1 else 0)
      else cellWidth c
  | c :: d :: rest =>
      if c = joiner then cellsAfter widens rest
      else if c = emojiSelector then (if widens then 1 else 0) + cellsAfter false (d :: rest)
      else
        let width := cellWidth c
        width + cellsAfter (if width = 0 then widens else isWidened c) (d :: rest)

/-- The columns a text takes when it is written on one line. -/
def cellCount (text : List Char) : Nat := cellsAfter false text

/-- Characters that share their cells. -/
structure Cluster where
  chars : List Char
  width : Nat

/-- Clusters under construction, the last one first and the characters of each in reverse. -/
structure Clusters where
  found : List Cluster := []
  /-- Whether an emoji selector makes the last cluster wider. -/
  widens : Bool := false

namespace Clusters

/-- Adds characters to the last cluster; the first cluster may be without a width. -/
def attach (chars : List Char) (wider : Nat) (clusters : Clusters) : Clusters :=
  match clusters.found with
  | [] => { clusters with found := [⟨chars.reverse, 0⟩] }
  | last :: earlier =>
      { clusters with found := ⟨chars.reverse ++ last.chars, last.width + wider⟩ :: earlier }

def push (c : Char) (clusters : Clusters) : Clusters :=
  { found := ⟨[c], cellWidth c⟩ :: clusters.found, widens := isWidened c }

/-- Adds a character by its width. -/
def add (c : Char) (clusters : Clusters) : Clusters :=
  if c = emojiSelector then
    { clusters.attach [c] (if clusters.widens then 1 else 0) with widens := false }
  else if cellWidth c = 0 then clusters.attach [c] 0
  else clusters.push c

def addAll (clusters : Clusters) : List Char → Clusters
  | [] => clusters
  | [c] => clusters.add c
  | c :: d :: rest =>
      if c = joiner ∧ clusters.found ≠ [] then addAll (clusters.attach [c, d] 0) rest
      else addAll (clusters.add c) (d :: rest)

end Clusters

def Cluster.reversed (cluster : Cluster) : Cluster :=
  { cluster with chars := cluster.chars.reverse }

def clusters (text : List Char) : List Cluster :=
  (Clusters.addAll {} text).found.reverse.map Cluster.reversed

namespace Clusters

def text (clusters : Clusters) : List Char :=
  clusters.found.reverse.flatMap fun cluster => cluster.chars.reverse

theorem text_attach (chars : List Char) (wider : Nat) (clusters : Clusters) :
    (clusters.attach chars wider).text = clusters.text ++ chars := by
  unfold attach text
  split
  · rename_i none_found
    simp [none_found]
  · rename_i last earlier found
    simp [found]

theorem text_add (c : Char) (clusters : Clusters) :
    (clusters.add c).text = clusters.text ++ [c] := by
  unfold add
  split
  · exact text_attach [c] _ clusters
  · split
    · exact text_attach [c] 0 clusters
    · simp [push, text]

theorem text_addAll (clusters : Clusters) (text : List Char) :
    (clusters.addAll text).text = clusters.text ++ text := by
  fun_induction addAll clusters text with
  | case1 => simp
  | case2 clusters c => exact text_add c clusters
  | case3 clusters c d rest joined ih => rw [ih, text_attach, List.append_assoc]; rfl
  | case4 clusters c d rest apart ih => rw [ih, text_add, List.append_assoc]; rfl

end Clusters

theorem flatMap_clusters (text : List Char) : (clusters text).flatMap Cluster.chars = text := by
  rw [clusters, List.flatMap_map]
  exact Clusters.text_addAll {} text

end ContainerLogs.Text
