import ContainerLogs.Proofs.FileTree.Making

/-!
Files that can be read. A path is opened for reading if it leads to something that is no directory and
that its user may read, and it still is as long as no name is given up.
-/
namespace ContainerLogs.FileTree

variable {before after tree : FileTree} {text : String} {number : Nat}

private theorem openForReading_eq_ok_iff : tree.openForReading text = .ok number ↔
    tree.resolve text = .ok number ∧ ∃ node, tree.node? number = some node ∧
      node.permits tree.user .read = true ∧ node.isDirectory = false := by
  unfold openForReading openNode permits
  cases tree.resolve text with
  | error refusal => simp [bind, Except.bind]
  | ok found =>
    simp only [bind, Except.bind, Except.ok.injEq]
    cases there : tree.node? found with
    | none =>
      simp only [Bool.false_eq_true, if_false, reduceCtorEq, false_iff]
      rintro ⟨rfl, node, same, -⟩
      rw [there] at same
      cases same
    | some node =>
      by_cases readable : node.permits tree.user .read = true
      · obtain ⟨kind, owner, mode⟩ := node
        cases kind with
        | directory entries parent =>
          simp only [readable, if_true, there, reduceCtorEq, false_iff]
          rintro ⟨rfl, node, same, -, noDirectory⟩
          rw [there] at same
          cases same
          cases noDirectory
        | file | symlink | fifo =>
          simp only [readable, if_true, there, Except.ok.injEq]
          exact ⟨fun same => ⟨same, _, same ▸ there, readable, rfl⟩, And.left⟩
      · simp only [readable, Bool.false_eq_true, if_false, reduceCtorEq, false_iff]
        rintro ⟨rfl, node', same, readable', -⟩
        rw [there] at same
        cases same
        exact readable readable'

/-- What can be read is found to be a file that may be read. -/
theorem stat_of_openForReading (opened : tree.openForReading text = .ok number) :
    ∃ node, tree.stat text = .ok node ∧ node.isDirectory = false ∧
      node.permits tree.user .read = true := by
  obtain ⟨resolved, node, there, readable, noDirectory⟩ := openForReading_eq_ok_iff.1 opened
  exact ⟨node, by simp [stat, resolved, bind, Except.bind, there], noDirectory, readable⟩

namespace Keeps

theorem openForReading (h : Keeps .none before after)
    (opened : before.openForReading text = .ok number) :
    after.openForReading text = .ok number := by
  obtain ⟨resolved, node, there, readable, noDirectory⟩ := openForReading_eq_ok_iff.1 opened
  refine openForReading_eq_ok_iff.2 ⟨h.resolve resolved, node, h.node there noDirectory, ?_, noDirectory⟩
  rw [h.user]
  exact readable

/-- What could be read has the same content. -/
theorem contentAt (h : Keeps .none before after)
    (opened : before.openForReading text = .ok number) :
    after.contentAt text = before.contentAt text := by
  obtain ⟨-, node, there, -, noDirectory⟩ := openForReading_eq_ok_iff.1 opened
  simp [FileTree.contentAt, h.openForReading opened, opened, bind, Except.bind, content, there,
    h.node there noDirectory]

end Keeps

end ContainerLogs.FileTree
