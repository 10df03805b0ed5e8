import ContainerLogs.Proofs.FileTree.Keeping

/-!
What making directories adds. A request for a directory with its missing ancestors leaves everything
as it was, and what is new are directories on the way that was asked for, refused or not.
-/
namespace ContainerLogs.FileTree

variable {before after tree : FileTree} {process : Process} {links here directory number : Nat}
  {name : String} {names : List String}

namespace Keeps

variable {lost : Lost} {text : String}

/-- What a text leads to it leads to as long as no name is given up. -/
theorem resolve (h : Keeps .none before after) (resolved : before.resolve text = .ok number) :
    after.resolve text = .ok number := by
  rw [resolve_eq_ok_iff] at resolved ⊢
  obtain ⟨speakable, leads⟩ := resolved
  rw [h.base]
  exact ⟨speakable, h.leads leads fun _ _ given => given.elim⟩

theorem stat (h : Keeps .none before after) {node : Node} (there : before.stat text = .ok node)
    (noDirectory : node.isDirectory = false) : after.stat text = .ok node := by
  cases resolved : before.resolve text with
  | error refusal => simp [FileTree.stat, resolved, bind, Except.bind] at there
  | ok number =>
    simp only [FileTree.stat, resolved, bind, Except.bind] at there
    split at there
    · rename_i found
      cases there
      simp only [FileTree.stat, h.resolve resolved, bind, Except.bind, h.node found noDirectory]
    · cases there

/-- What was not there before, and is not new since, is not there. -/
private theorem absent (h : Keeps lost before after) (missing : after.node? number = none) :
    before.node? number = none := by
  cases found : before.node? number with
  | none => rfl
  | some node =>
    obtain ⟨kind, owner, mode⟩ := node
    cases kind with
    | directory entries parent =>
      obtain ⟨entries', found', -⟩ := h.directory found
      rw [missing] at found'
      cases found'
    | file | symlink | fifo =>
      rw [h.node found rfl] at missing
      cases missing

end Keeps

section Free

variable (h : Keeps .none before after) (found : after.Found number (.free directory name))
include h found

private theorem leads_of_free_way
    (onward : ∀ {start rest}, before.onLink .link links start rest = .ok (.free directory name) →
      ∃ fewer, links = fewer + 1 ∧ after.Leads fewer start rest number)
    (way : before.Way (before.onLink .link links) .link here names (.free directory name)) :
    after.Leads links here names number := by
  generalize there : Place.free directory name = place at way
  -- The way is the same in both trees up to its last step, which now leads on to the new node.
  induction way with
  | arrived => cases there
  | slash listed way ih =>
    obtain ⟨entries, listed', -⟩ := h.directory listed
    exact .slash listed' (ih there)
  | self opens way ih =>
    obtain ⟨entries, opens', -⟩ := h.opens opens
    exact .self opens' (ih there)
  | up opens way ih =>
    obtain ⟨entries, opens', -⟩ := h.opens opens
    exact .up opens' (ih there)
  | free opens proper absent =>
    cases there
    obtain ⟨entries, parent, owner, mode, label, listed, named, noLink⟩ := found
    have granted := (h.permits opens .search).trans opens.granted
    exact .down ⟨⟨owner, mode, listed⟩, granted⟩ proper named noLink .arrived
  | link => cases there
  | @followed here other rest place entries parent label next target owner mode opens proper entry
      link unasked nonempty followed =>
    subst there
    have further : rest.isEmpty = false := by simpa using unasked
    simp only [follow, further, Bool.false_eq_true, if_false] at followed
    obtain ⟨fewer, rfl, leads⟩ := onward followed
    obtain ⟨entries', opens', kept⟩ := h.opens opens
    exact .followed opens' proper (kept _ _ id entry) (h.node link rfl) nonempty leads
  | down opens proper entry noLink way ih =>
    obtain ⟨entries', opens', kept⟩ := h.opens opens
    refine .down opens' proper (kept _ _ id entry) ?_ (ih there)
    rintro ⟨target, owner, mode, link⟩
    exact noLink ⟨target, owner, mode, h.link link⟩

/-- Names that led to a free name lead to what stands under it since. -/
private theorem leads_of_free
    (walked : before.walkLinks .link links here names = .ok (.free directory name)) :
    after.Leads links here names number := by
  induction links generalizing here names with
  | zero =>
    rw [walkLinks_eq_walk, walk_eq_ok_iff] at walked
    exact leads_of_free_way h found nofun walked
  | succ links ih =>
    rw [walkLinks_eq_walk, walk_eq_ok_iff] at walked
    exact leads_of_free_way h found (fun followed => ⟨links, rfl, ih followed⟩) walked

private theorem resolve_of_free {text : String}
    (placed : before.place text .link = .ok (.free directory name)) :
    after.resolve text = .ok number := by
  rw [resolve_eq_ok_iff, h.base]
  unfold place at placed
  simp only [walkWhole] at placed
  split at placed
  · cases placed
  split at placed
  · cases placed
  split at placed
  · cases placed
  rename_i valid nonempty fits
  rw [if_neg (by simp)] at placed
  split at placed
  · rename_i walked
    cases placed
    exact ⟨⟨by simpa using valid, nonempty, fits⟩, leads_of_free h found walked⟩
  · cases placed

end Free

/-- Everything is as it was, but there may be new directories, and each of them is one that the way
leads over or to. -/
structure OnlyMade (way : Path) (before after : FileTree) : Prop where
  keeps : Keeps .none before after
  /-- The names that a directory has got are those of new nodes. -/
  gained : ∀ {number entries parent owner mode},
    before.node? number = some ⟨.directory entries parent, owner, mode⟩ →
    ∃ more, after.node? number = some ⟨.directory (entries ++ more) parent, owner, mode⟩ ∧
      ∀ entry ∈ more, before.node? entry.2 = none
  made : ∀ {number node}, before.node? number = none → after.node? number = some node →
    node.isDirectory = true ∧ ∃ above : Path, above.anchor = way.anchor ∧
      above.parts <+: way.parts ∧ after.resolve above.text = .ok number

namespace OnlyMade

variable {way above : Path} {first second third : FileTree}

theorem refl (way : Path) (tree : FileTree) : OnlyMade way tree tree where
  keeps := .refl _ tree
  gained found := ⟨[], by rwa [List.append_nil], nofun⟩
  made missing found := by
    rw [missing] at found
    cases found

theorem trans (h : OnlyMade way first second) (h' : OnlyMade way second third) :
    OnlyMade way first third where
  keeps := h.keeps.trans h'.keeps
  gained found := by
    obtain ⟨more, found', fresh⟩ := h.gained found
    obtain ⟨more', found'', fresh'⟩ := h'.gained found'
    refine ⟨more ++ more', by rwa [← List.append_assoc], ?_⟩
    intro entry among
    rcases List.mem_append.1 among with early | late
    · exact fresh entry early
    · exact h.keeps.absent (fresh' entry late)
  made {number node} missing found := by
    cases between : second.node? number with
    | none => exact h'.made between found
    | some earlier =>
      obtain ⟨isDirectory, above, anchor, parts, resolved⟩ := h.made missing between
      refine ⟨?_, above, anchor, parts, h'.keeps.resolve resolved⟩
      obtain ⟨kind, owner, mode⟩ := earlier
      cases kind with
      | directory entries parent =>
        obtain ⟨more, found', -⟩ := h'.gained between
        rw [found] at found'
        cases found'
        rfl
      | file | symlink | fifo => cases isDirectory

/-- What was made on the way to an ancestor was made on the way. -/
private theorem mono (h : OnlyMade above before after) (anchor : above.anchor = way.anchor)
    (parts : above.parts <+: way.parts) : OnlyMade way before after where
  keeps := h.keeps
  gained := h.gained
  made missing found := by
    obtain ⟨isDirectory, higher, anchor', parts', resolved⟩ := h.made missing found
    exact ⟨isDirectory, higher, anchor'.trans anchor, parts'.trans parts, resolved⟩

end OnlyMade

theorem makeDirectory_eq_ok {text : String} {bits : Nat}
    (made : tree.makeDirectory process text bits = .ok after) : ∃ directory name,
    tree.place text .link = .ok (.free directory name) ∧
      after = tree.created directory name ⟨.directory [] directory, tree.user,
        process.granted bits ||| tree.inheritedMode directory⟩ := by
  unfold makeDirectory at made
  cases placed : tree.place text .link with
  | error refusal =>
    rw [placed] at made
    cases made
  | ok place =>
    rw [placed] at made
    cases place with
    | taken => cases made
    | free directory name =>
      simp only [bind, Except.bind] at made
      split at made
      · cases made
      · cases made
        exact ⟨directory, name, rfl, rfl⟩

/-- The path of a directory that was made leads to the new node. -/
theorem resolve_of_makeDirectory {text : String} {bits : Nat}
    (made : tree.makeDirectory process text bits = .ok after) :
    after.resolve text = .ok tree.nodes.length := by
  have keeps := makeDirectory_keeps made
  obtain ⟨directory, name, placed, rfl⟩ := makeDirectory_eq_ok made
  have free := vacant_of_place placed
  obtain ⟨entries, parent, owner, mode, listed, absent⟩ := id free
  refine resolve_of_free keeps ⟨_, _, _, _, name, node?_created_directory listed, ?_, ?_⟩ placed
  · rw [List.find?_append, absent]
    simp
  · rintro ⟨target, owner, mode, link⟩
    rw [node?_created_new free] at link
    cases link

theorem makeDirectory_onlyMade {path : Path} {bits : Nat}
    (made : tree.makeDirectory process path.text bits = .ok after) : OnlyMade path tree after := by
  have keeps := makeDirectory_keeps made
  have resolved := resolve_of_makeDirectory made
  obtain ⟨directory, name, placed, rfl⟩ := makeDirectory_eq_ok made
  obtain ⟨entries, parent, owner, mode', listed, absent⟩ := vacant_of_place placed
  have new : tree.node? tree.nodes.length = none := by simp [node?]
  have old := Nat.ne_of_lt (lt_length_of_node? listed)
  refine ⟨keeps, ?_, ?_⟩
  · intro number entries' parent' owner' mode'' found
    -- Of the directories that were there only the one that the new one is made in gets a name.
    by_cases here : number = directory
    · subst here
      rw [listed] at found
      cases found
      exact ⟨_, node?_created_directory listed, by simpa using new⟩
    · have old := Nat.ne_of_lt (lt_length_of_node? found)
      refine ⟨[], ?_, List.forall_mem_nil _⟩
      rw [node?_created_ne here, if_neg old, found, List.append_nil]
  · intro number node missing found
    have elsewhere : number ≠ directory := by
      rintro rfl
      rw [listed] at missing
      cases missing
    rw [node?_created_ne elsewhere, missing] at found
    split at found
    · rename_i first
      subst first
      cases found
      exact ⟨rfl, path, rfl, List.prefix_rfl, resolved⟩
    · cases found

private theorem makeOrKeep_onlyMade (tree : FileTree) (process : Process) (path : Path)
    (mode : Nat) :
    OnlyMade path tree (tree.makeOrKeep process path.text mode).1 := by
  unfold makeOrKeep
  cases made : tree.makeDirectory process path.text mode with
  | ok after => exact makeDirectory_onlyMade made
  | error refusal =>
    simp only
    split
    · exact .refl path tree
    · rw [keepDirectory_fst]
      exact .refl path tree

/-- Making a directory with its ancestors makes nothing else, also if it is refused half-way. -/
theorem makeDirectories_onlyMade (tree : FileTree) (process : Process) (path : Path) (mode : Nat) :
    OnlyMade path tree (tree.makeDirectories process path mode).1 := by
  rw [makeDirectories.eq_def]
  cases made : tree.makeDirectory process path.text mode with
  | ok after => exact makeDirectory_onlyMade made
  | error refusal =>
    simp only
    split
    · rename_i absent
      have shorter := Path.length_parent_lt absent.2
      have parents : OnlyMade path tree (tree.makeDirectories process path.parent 0o777).1 :=
        (makeDirectories_onlyMade tree process path.parent 0o777).mono rfl (List.dropLast_prefix _)
      rcases ancestors : tree.makeDirectories process path.parent 0o777 with ⟨between, _ | stopped⟩
      · rw [ancestors] at parents
        exact parents.trans (between.makeOrKeep_onlyMade process path mode)
      · rw [ancestors] at parents
        exact parents
    split
    · exact .refl path tree
    · rw [keepDirectory_fst]
      exact .refl path tree
termination_by path.parts.length

end ContainerLogs.FileTree
