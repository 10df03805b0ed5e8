import ContainerLogs.Text.Cluster

/-!
The cells of a text in which each character takes its own: without joiners and emoji selectors, the
widths of the characters add up, and a cluster is a character with the marks on it.
-/
namespace ContainerLogs.Text

/-- A character that takes the same cells whatever stands around it, and leaves theirs to others. -/
def Steady (c : Char) : Prop := c ≠ joiner ∧ c ≠ emojiSelector

instance (c : Char) : Decidable (Steady c) := inferInstanceAs (Decidable (_ ∧ _))

/-- The cells that the characters of a text take each. -/
def cells : List Char → Nat
  | [] => 0
  | c :: text => cellWidth c + cells text

@[simp] theorem cells_nil : cells [] = 0 := rfl

@[simp] theorem cells_cons (c : Char) (text : List Char) :
    cells (c :: text) = cellWidth c + cells text := rfl

@[simp] theorem cells_append (front back : List Char) :
    cells (front ++ back) = cells front + cells back := by
  induction front with
  | nil => simp
  | cons c front ih => simp [ih, Nat.add_assoc]

private theorem cells_eq_zero {text : List Char} (bare : ∀ c ∈ text, cellWidth c = 0) :
    cells text = 0 := by
  induction text with
  | nil => rfl
  | cons c text ih =>
    obtain ⟨first, others⟩ := List.forall_mem_cons.1 bare
    rw [cells_cons, first, ih others]

variable {text : List Char}

private theorem cellsAfter_eq_cells (widens : Bool) (steady : ∀ c ∈ text, Steady c) :
    cellsAfter widens text = cells text := by
  fun_induction cellsAfter widens text with
  | case1 => rfl
  | case2 => exact absurd rfl (steady _ List.mem_cons_self).1
  | case3 => exact absurd rfl (steady _ List.mem_cons_self).2
  | case4 => exact absurd rfl (steady _ List.mem_cons_self).2
  | case5 => simp
  | case6 => exact absurd rfl (steady _ List.mem_cons_self).1
  | case7 => exact absurd rfl (steady _ List.mem_cons_self).2
  | case8 widens c d rest _ _ width ih =>
    rw [ih (List.forall_mem_cons.1 steady).2]
    rfl

theorem cellCount_eq_cells (steady : ∀ c ∈ text, Steady c) : cellCount text = cells text :=
  cellsAfter_eq_cells false steady

/-- A cluster is a character with the marks on it, which take no cells. -/
def Cluster.Marked (cluster : Cluster) : Prop :=
  ∃ c marks, cluster.chars = c :: marks ∧ cluster.width = cellWidth c ∧
    ∀ mark ∈ marks, cellWidth mark = 0

theorem Cluster.Marked.cells_eq {cluster : Cluster} (h : cluster.Marked) :
    cells cluster.chars = cluster.width := by
  obtain ⟨c, marks, chars, width, bare⟩ := h
  rw [chars, width, cells_cons, cells_eq_zero bare, Nat.add_zero]

namespace Clusters

/-- Clusters under construction, whose characters are in reverse. -/
def Marked (clusters : Clusters) : Prop := ∀ cluster ∈ clusters.found, cluster.reversed.Marked

private theorem Marked.add {clusters : Clusters} {c : Char} (h : clusters.Marked)
    (steady : Steady c) :
    (clusters.add c).Marked := by
  rw [Clusters.add, if_neg steady.2]
  split
  · rename_i bare
    unfold attach
    split
    · rintro cluster (_ | ⟨_, ⟨⟩⟩)
      exact ⟨c, [], rfl, bare.symm, List.forall_mem_nil _⟩
    · rename_i last earlier found
      rw [Marked, found] at h
      obtain ⟨⟨d, marks, chars, width, without⟩, others⟩ := List.forall_mem_cons.1 h
      refine List.forall_mem_cons.2 ⟨⟨d, marks ++ [c], ?_, width, ?_⟩, others⟩
      · exact List.reverse_cons.trans (congrArg (· ++ [c]) chars)
      · exact List.forall_mem_append.2 ⟨without, by simpa using bare⟩
  · exact List.forall_mem_cons.2 ⟨⟨c, [], rfl, rfl, List.forall_mem_nil _⟩, h⟩

private theorem Marked.addAll {clusters : Clusters} (h : clusters.Marked)
    (steady : ∀ c ∈ text, Steady c) :
    (clusters.addAll text).Marked := by
  fun_induction Clusters.addAll clusters text with
  | case1 => exact h
  | case2 clusters c => exact h.add (steady c List.mem_cons_self)
  | case3 clusters c d rest joined => exact absurd joined.1 (steady c List.mem_cons_self).1
  | case4 clusters c d rest apart ih =>
    obtain ⟨first, others⟩ := List.forall_mem_cons.1 steady
    exact ih (h.add first) others

end Clusters

theorem marked_of_mem_clusters (steady : ∀ c ∈ text, Steady c) :
    ∀ cluster ∈ clusters text, cluster.Marked := by
  have none_found : Clusters.Marked {} := List.forall_mem_nil _
  intro cluster among
  obtain ⟨found, within, rfl⟩ := List.mem_map.1 among
  exact none_found.addAll steady found (List.mem_reverse.1 within)

end ContainerLogs.Text
