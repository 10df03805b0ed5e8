import ContainerLogs.Collection.Collector

/-!
What a listing finds. A directory is listed if it can be read and if it can be told of each link in
it where it leads; then the names of its regular files are found, in the order of their code points.
-/
namespace ContainerLogs.Collector

variable {tree : FileTree} {directory : Path}

/-- An entry that is a regular file, or a link to one. -/
def leadsToFile (tree : FileTree) (directory : Path) (entry : String × Nat) : Bool :=
  match tree.node? entry.2 with
  | some ⟨.file _, _, _⟩ => true
  | some ⟨.symlink _, _, _⟩ =>
      match tree.stat (directory.text ++ "/" ++ entry.1) with
      | .ok node => node.isFile
      | .error _ => false
  | _ => false

/-- A link of which it cannot be told where it leads, other than that nothing is there. -/
def Untold (tree : FileTree) (directory : Path) (entry : String × Nat) (refusal : Refusal) : Prop :=
  (∃ target owner mode, tree.node? entry.2 = some ⟨.symlink target, owner, mode⟩) ∧
    tree.stat (directory.text ++ "/" ++ entry.1) = .error refusal ∧ refusal.errno? ≠ some .noEntry

/-- The names in a directory that lead to regular files, in order. -/
def Lists (tree : FileTree) (directory : Path) (names : List String) : Prop :=
  ∃ entries, tree.directoryEntries directory.text = .ok entries ∧
    (∀ entry ∈ entries, ∀ refusal, ¬ Untold tree directory entry refusal) ∧
    names.Perm ((entries.filter (leadsToFile tree directory)).map (·.1)) ∧
    names.Pairwise (· ≤ ·)

/-- A directory that cannot be read, or the first of its links that cannot be told. -/
def Unlisted (tree : FileTree) (directory : Path) (refusal : Refusal) : Prop :=
  tree.directoryEntries directory.text = .error refusal ∨
    ∃ front entry back, tree.directoryEntries directory.text = .ok (front ++ entry :: back) ∧
      (∀ earlier ∈ front, ∀ other, ¬ Untold tree directory earlier other) ∧
      Untold tree directory entry refusal

private theorem isListed_of_untold {entry : String × Nat} {refusal : Refusal}
    (untold : Untold tree directory entry refusal) :
    isListed tree (directory.text ++ "/" ++ entry.1) entry.2 = .error refusal := by
  obtain ⟨⟨target, owner, mode, link⟩, refused, present⟩ := untold
  simp only [isListed, link, refused, if_neg present]

private theorem isListed_of_told {entry : String × Nat}
    (told : ∀ refusal, ¬ Untold tree directory entry refusal) :
    isListed tree (directory.text ++ "/" ++ entry.1) entry.2 =
      .ok (leadsToFile tree directory entry) := by
  rcases found : tree.node? entry.2 with _ | ⟨kind, owner, mode⟩
  · simp only [isListed, leadsToFile, found]
  cases kind with
  | file | directory | fifo => simp only [isListed, leadsToFile, found]
  | symlink target =>
    simp only [isListed, leadsToFile, found]
    cases followed : tree.stat (directory.text ++ "/" ++ entry.1) with
    | ok node => rfl
    | error refusal =>
      by_cases absent : refusal.errno? = some .noEntry
      · simp only [if_pos absent]
      · exact absurd ⟨⟨target, owner, mode, found⟩, followed, absent⟩ (told refusal)

/-- Either all links can be told, or there is a first that cannot. -/
private theorem told_or_first (tree : FileTree) (directory : Path) (entries : List (String × Nat)) :
    (∀ entry ∈ entries, ∀ refusal, ¬ Untold tree directory entry refusal) ∨
      ∃ front entry back refusal, entries = front ++ entry :: back ∧
        (∀ earlier ∈ front, ∀ other, ¬ Untold tree directory earlier other) ∧
        Untold tree directory entry refusal := by
  induction entries with
  | nil => exact .inl (by simp)
  | cons first entries ih =>
    by_cases here : ∃ refusal, Untold tree directory first refusal
    · obtain ⟨refusal, untold⟩ := here
      exact .inr ⟨[], first, entries, refusal, rfl, by simp, untold⟩
    · have told := not_exists.1 here
      rcases ih with others | ⟨front, entry, back, refusal, rfl, others, untold⟩
      · exact .inl (List.forall_mem_cons.2 ⟨told, others⟩)
      · exact .inr ⟨first :: front, entry, back, refusal, rfl,
          List.forall_mem_cons.2 ⟨told, others⟩, untold⟩

private theorem filterAuxM_told {entries : List (String × Nat)} (found : List (String × Nat))
    (told : ∀ entry ∈ entries, ∀ refusal, ¬ Untold tree directory entry refusal) :
    entries.filterAuxM (fun (name, number) =>
        isListed tree (directory.text ++ "/" ++ name) number) found =
      .ok ((entries.filter (leadsToFile tree directory)).reverse ++ found) := by
  induction entries generalizing found with
  | nil => rfl
  | cons entry entries ih =>
    obtain ⟨first, others⟩ := List.forall_mem_cons.1 told
    have here := isListed_of_told first
    simp only [List.filterAuxM, here, bind, Except.bind]
    rw [ih _ others]
    cases leads : leadsToFile tree directory entry <;> simp [leads]

private theorem filterAuxM_untold {front back : List (String × Nat)} {entry : String × Nat}
    {refusal : Refusal} (found : List (String × Nat))
    (told : ∀ earlier ∈ front, ∀ other, ¬ Untold tree directory earlier other)
    (untold : Untold tree directory entry refusal) :
    (front ++ entry :: back).filterAuxM (fun (name, number) =>
      isListed tree (directory.text ++ "/" ++ name) number) found = .error refusal := by
  induction front generalizing found with
  | nil =>
    have here := isListed_of_untold untold
    simp only [List.nil_append, List.filterAuxM, here, bind, Except.bind]
  | cons first front ih =>
    obtain ⟨here, others⟩ := List.forall_mem_cons.1 told
    have here := isListed_of_told here
    simp only [List.cons_append, List.filterAuxM, here, bind, Except.bind]
    exact ih _ others

/-- Sorting by code point is sorting. -/
private theorem sorted_mergeSort (names : List String) :
    (names.mergeSort fun a b => decide (a ≤ b)).Pairwise (· ≤ ·) := by
  have trans (a b c : String) : decide (a ≤ b) = true → decide (b ≤ c) = true →
      decide (a ≤ c) = true := by simpa using String.le_trans
  have total (a b : String) : (decide (a ≤ b) || decide (b ≤ a)) = true := by
    simpa using String.le_total a b
  simpa using List.pairwise_mergeSort trans total names

theorem listFiles_of_lists {names : List String} (lists : Lists tree directory names) :
    listFiles tree directory = .ok names := by
  obtain ⟨entries, read, told, same, sorted⟩ := lists
  have listed : listFiles tree directory = .ok
      (((entries.filter (leadsToFile tree directory)).map (·.1)).mergeSort
        fun a b => decide (a ≤ b)) := by
    simp only [listFiles, read, List.filterM, filterAuxM_told [] told, bind, Except.bind, pure,
      Except.pure, List.append_nil, List.reverse_reverse]
  rw [listed]
  congr 1
  exact List.Perm.eq_of_pairwise (fun _ _ _ _ => String.le_antisymm) (sorted_mergeSort _) sorted
    ((List.mergeSort_perm _ _).trans same.symm)

theorem listFiles_of_unlisted {refusal : Refusal} (unlisted : Unlisted tree directory refusal) :
    listFiles tree directory = .error refusal := by
  rcases unlisted with refused | ⟨front, entry, back, read, told, untold⟩
  · simp only [listFiles, refused, bind, Except.bind]
  · simp only [listFiles, read, List.filterM, filterAuxM_untold [] told untold, bind, Except.bind]

/-- A directory is either listed or not. -/
theorem lists_or_unlisted (tree : FileTree) (directory : Path) :
    (∃ names, Lists tree directory names) ∨ ∃ refusal, Unlisted tree directory refusal := by
  cases read : tree.directoryEntries directory.text with
  | error refusal => exact .inr ⟨refusal, .inl read⟩
  | ok entries =>
    rcases told_or_first tree directory entries with told | ⟨front, entry, back, refusal, rfl, told,
      untold⟩
    · exact .inl ⟨_, entries, read, told, List.mergeSort_perm _ _, sorted_mergeSort _⟩
    · exact .inr ⟨refusal, .inr ⟨front, entry, back, read, told, untold⟩⟩

/-- Listing a directory finds its regular files. -/
theorem listFiles_eq_ok_iff {names : List String} :
    listFiles tree directory = .ok names ↔ Lists tree directory names := by
  refine ⟨fun listed => ?_, listFiles_of_lists⟩
  rcases lists_or_unlisted tree directory with ⟨others, lists⟩ | ⟨refusal, unlisted⟩
  · rw [listFiles_of_lists lists] at listed
    cases listed
    exact lists
  · rw [listFiles_of_unlisted unlisted] at listed
    cases listed

theorem listFiles_eq_error_iff {refusal : Refusal} :
    listFiles tree directory = .error refusal ↔ Unlisted tree directory refusal := by
  refine ⟨fun failed => ?_, listFiles_of_unlisted⟩
  rcases lists_or_unlisted tree directory with ⟨names, lists⟩ | ⟨other, unlisted⟩
  · rw [listFiles_of_lists lists] at failed
    cases failed
  · rw [listFiles_of_unlisted unlisted] at failed
    cases failed
    exact unlisted

end ContainerLogs.Collector
