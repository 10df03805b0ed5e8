import ContainerLogs.Proofs.Collection.Survey

/-!
Collections in a tree that nobody changes. What is met at a root is then told by the tree alone, and
what becomes of a file depends on nothing but its path: a collection for one user comes to the stops
that the tree has at each root, in order. While bytes can be put aside, it ends only at the first root
of which it cannot be told whether it is a directory, or at the first file in whose place a length
stands that does not fit its field.
-/
namespace ContainerLogs.Collector

/-- What becomes of a file of a tree. -/
def fateIn (host : Host) (schedule : Schedule) (tree : FileTree) (path : Path) (expected : String) :
    Fate :=
  (visit host schedule path expected { tree := tree }).2

/-- A file of a directory with what becomes of it. -/
def visitIn (host : Host) (schedule : Schedule) (tree : FileTree) (owner : String) (directory : Path)
    (name : String) : Visit :=
  ⟨directory, name, owner, fateIn host schedule tree (directory.append ⟨"", [name]⟩) owner⟩

/-- The files of a directory that was listed, unless something does not fit. -/
def listedOf (visits : List Visit) : Except CollectFault Stop :=
  match visits.findSome? (·.handed? none) with
  | none => .ok (.listed visits)
  | some fault => .error fault

/-- What is met at a root of a tree, or why the collection ends there. -/
def stopIn (host : Host) (schedule : Schedule) (tree : FileTree) (collector : Collector)
    (owner : String) (root : Path) : Except CollectFault Stop :=
  match tree.isDirectory root.text with
  | .error refusal => .error (.root refusal)
  | .ok false => .ok (.missing root)
  | .ok true =>
      let directory := collector.directoryIn root
      match listFiles tree directory with
      | .error refusal =>
          if refusal.errno? = some .noEntry ∨ refusal.errno? = some .notDirectory then
            .ok (.noLogs root)
          else .ok (.unlisted directory)
      | .ok names => listedOf (names.map (visitIn host schedule tree owner directory))

variable {host : Host} {schedule : Schedule} {tree : FileTree} {collector : Collector}
  {owner : String} {before : Surroundings} {question : Nat}

/-- What becomes of a file is told by its text and its name. -/
theorem fateIn_congr (host : Host) (schedule : Schedule) (tree : FileTree) (expected : String)
    {path other : Path} (text : path.text = other.text) (name : path.name = other.name) :
    fateIn host schedule tree path expected = fateIn host schedule tree other expected := by
  simp only [fateIn, visit, text, name]

/-- A mismatch is told under the path of its file. -/
theorem path_of_mismatch {path : Path} {expected : String} {found : OwnershipMismatch}
    {after : Surroundings}
    (visited : Visited host schedule path expected before (.mismatch found) after) :
    found.path = path.text := by
  cases visited
  rfl

theorem listedOf_eq_ok {visits : List Visit} {stop : Stop} (settled : listedOf visits = .ok stop) :
    stop = .listed visits := by
  unfold listedOf at settled
  split at settled <;> cases settled
  rfl

/-- Each stop is that of a root, and each root has its stop. -/
theorem mem_of_stops {roots : List Path} {stops : List Stop}
    (told : roots.mapM (stopIn host schedule tree collector owner) = .ok stops) :
    (∀ root ∈ roots, ∃ stop ∈ stops,
      stopIn host schedule tree collector owner root = .ok stop) ∧
    ∀ stop ∈ stops, ∃ root ∈ roots,
      stopIn host schedule tree collector owner root = .ok stop := by
  induction roots generalizing stops with
  | nil =>
    cases told
    exact ⟨nofun, nofun⟩
  | cons root roots ih =>
    rw [List.mapM_cons] at told
    cases first : stopIn host schedule tree collector owner root with
    | error refusal =>
      rw [first] at told
      cases told
    | ok stop =>
      cases others : roots.mapM (stopIn host schedule tree collector owner) with
      | error refusal => simp [first, others, bind, Except.bind] at told
      | ok rest =>
        simp only [first, others, bind, Except.bind, pure, Except.pure] at told
        cases told
        obtain ⟨haveStops, haveRoots⟩ := ih others
        constructor
        · intro other among
          rcases List.mem_cons.1 among with rfl | among
          · exact ⟨stop, List.mem_cons_self, first⟩
          · obtain ⟨found, there, stops⟩ := haveStops other among
            exact ⟨found, List.mem_cons_of_mem _ there, stops⟩
        · intro other among
          rcases List.mem_cons.1 among with rfl | among
          · exact ⟨root, List.mem_cons_self, first⟩
          · obtain ⟨found, there, stops⟩ := haveRoots other among
            exact ⟨found, List.mem_cons_of_mem _ there, stops⟩

section Calm

variable (calm : schedule.Calm)
include calm

private theorem readsAmid_of_calm (failure : Option (Errno × Nat)) (number : Nat)
    (around : Surroundings) :
    Snapshot.readsAmid schedule failure number around = fun _ =>
      Snapshot.readAt (around.tree.content number) failure := by
  funext turn
  rw [Snapshot.readsAmid, calm.tree_awaitTimes]

private theorem take_of_calm (name : String) (number : Nat) {around other : Surroundings}
    (same : around.tree.content number = other.tree.content number) :
    (Snapshot.take schedule name number around).2 =
      (Snapshot.take schedule name number other).2 := by
  simp only [Snapshot.take, calm.await, same]
  split
  · rfl
  · simp [Snapshot.readOpen, calm.eventFor, Change.applyAll, readsAmid_of_calm calm, same]

private theorem snapped_of_calm {name : String} {number : Nat} {around other after : Surroundings}
    {result : Except Refusal Bytes} (snapped : Snapped schedule name number around result after)
    (same : around.tree.content number = other.tree.content number) :
    Snapped schedule name number other result (Snapshot.take schedule name number other).1 := by
  have taken := snapped_take schedule name number other
  rw [← take_of_calm calm name number same, take_of_snapped snapped] at taken
  exact taken

theorem tree_await (around : Surroundings) : (around.await schedule).tree = around.tree := by
  rw [calm.await]

/-- The same becomes of a file in every tree in which its path leads to the same file. -/
theorem fate_of_visited {path : Path} {expected : String} {fate : Fate} {after : Surroundings}
    (visited : Visited host schedule path expected before fate after)
    (opens : tree.openNode path.text = before.tree.openNode path.text)
    (regular_iff : ∀ number, before.tree.openNode path.text = .ok number → ∀ content owner mode,
      tree.node? number = some ⟨.file content, owner, mode⟩ ↔
        before.tree.node? number = some ⟨.file content, owner, mode⟩) :
    fate = fateIn host schedule tree path expected := by
  have waited := tree_await calm before
  have here : (({ tree := tree } : Surroundings).await schedule).tree = tree := tree_await calm _
  have opens' : (({ tree := tree } : Surroundings).await schedule).tree.openNode path.text =
      (before.await schedule).tree.openNode path.text := by rw [here, waited, opens]
  have regular_iff' {number : Nat} (opened : (before.await schedule).tree.openNode path.text = .ok number)
      (content : Bytes) (owner mode : Nat) :
      (({ tree := tree } : Surroundings).await schedule).tree.node? number =
          some ⟨.file content, owner, mode⟩ ↔
        (before.await schedule).tree.node? number = some ⟨.file content, owner, mode⟩ := by
    rw [here, waited]
    exact regular_iff number (waited ▸ opened) content owner mode
  have content {number : Nat} {content : Bytes} {owner mode : Nat}
      (regular : (before.await schedule).tree.node? number = some ⟨.file content, owner, mode⟩)
      (regular' : (({ tree := tree } : Surroundings).await schedule).tree.node? number =
        some ⟨.file content, owner, mode⟩) : (before.await schedule).tree.content number =
          (({ tree := tree } : Surroundings).await schedule).tree.content number := by
    rw [FileTree.content, regular, FileTree.content, regular']
  suffices ∃ around, Visited host schedule path expected { tree := tree } fate around by
    obtain ⟨around, visited⟩ := this
    rw [fateIn, visit_of_visited visited]
  cases visited with
  | refused unopened =>
    exact ⟨_, .refused (opens'.trans unopened)⟩
  | irregular opened irregular =>
    refine ⟨_, .irregular (opens'.trans opened) fun content owner mode found => ?_⟩
    exact irregular content owner mode ((regular_iff' opened content owner mode).1 found)
  | foreign opened regular other =>
    exact ⟨_, .foreign (opens'.trans opened) ((regular_iff' opened _ _ _).2 regular) other⟩
  | unread opened regular own broken =>
    have regular' := (regular_iff' opened _ _ _).2 regular
    exact ⟨_, .unread (opens'.trans opened) regular' own
      (snapped_of_calm calm broken (content regular regular'))⟩
  | included opened regular own whole =>
    have regular' := (regular_iff' opened _ _ _).2 regular
    exact ⟨_, .included (opens'.trans opened) regular' own
      (snapped_of_calm calm whole (content regular regular'))⟩

private theorem afterListing_of_calm (around : Surroundings) :
    ∃ after, around.afterListing schedule = (after, none) ∧ after.tree = around.tree := by
  have kept := calm.tree_afterListing around
  unfold Surroundings.afterListing at kept ⊢
  rw [calm.afterListing] at kept ⊢
  split
  · exact ⟨around, rfl, rfl⟩
  · exact ⟨_, rfl, rfl⟩

/-- The files of a directory are visited with what becomes of them in the tree, and if something of
them does not fit, the visits end there. -/
private theorem visits_of_round (owned : collector.owner = .fixed owner) {directory : Path}
    {names : List String} {visits : List Visit} {ending : Option CollectFault} {after : Surroundings}
    (round : Round host schedule collector.owner directory question before names visits ending after) :
    after.tree = before.tree ∧
    (ending = none → visits = names.map (visitIn host schedule before.tree owner directory) ∧
      visits.findSome? (·.handed? none) = none) ∧
    ∀ fault, ending = some fault → schedule.Untroubled →
      (names.map (visitIn host schedule before.tree owner directory)).findSome? (·.handed? none) =
        some fault := by
  have known {question : Nat} {expected : String}
      (answered : collector.owner.answer? question = some expected) : expected = owner := by
    rw [owned] at answered
    exact (Option.some.inj answered).symm
  induction round with
  | done => exact ⟨rfl, fun _ => ⟨rfl, rfl⟩, nofun⟩
  | unanswered silent =>
    rw [owned] at silent
    cases silent
  | @visit question before between after name expected names fate visits ending answered visited
      whole rest ih =>
    obtain rfl := known answered
    obtain ⟨kept, done, ends⟩ := ih
    have same := (calm.steady host before.tree).visit (directory.append ⟨"", [name]⟩) expected before rfl
    rw [visit_of_visited visited] at same
    have told := fate_of_visited calm visited rfl fun _ _ _ _ _ => Iff.rfl
    have fits := Visit.handed?_of_whole whole
    rw [same] at kept done ends
    subst told
    refine ⟨kept, fun returns => ?_, fun fault stops untroubled => ?_⟩
    · obtain ⟨rfl, all⟩ := done returns
      exact ⟨rfl, by rw [List.findSome?_cons, fits]; exact all⟩
    · rw [List.map_cons, List.findSome?_cons, visitIn, fits]
      exact ends fault stops untroubled
  | @broken question before after name expected names fate fault answered visited breaks =>
    obtain rfl := known answered
    have same := (calm.steady host before.tree).visit (directory.append ⟨"", [name]⟩) expected before rfl
    rw [visit_of_visited visited] at same
    have told := fate_of_visited calm visited rfl fun _ _ _ _ _ => Iff.rfl
    subst told
    refine ⟨same, nofun, fun other stops untroubled => ?_⟩
    cases stops
    rw [untroubled, Visit.fault?_of_untroubled] at breaks
    rw [List.map_cons, List.findSome?_cons, visitIn, breaks]

/-- At a root the stop is made that the tree has there, or the collection ends as the tree has it. -/
private theorem stopIn_of_meets (owned : collector.owner = .fixed owner) {root : Path}
    {stop? : Option Stop} {ending : Option CollectFault} {after : Surroundings}
    (meets : Meets host schedule collector question before root stop? ending after) :
    after.tree = before.tree ∧
    (ending = none → ∀ stop, stop? = some stop →
      stopIn host schedule before.tree collector owner root = .ok stop) ∧
    ∀ fault, ending = some fault → schedule.Untroubled →
      stopIn host schedule before.tree collector owner root = .error fault := by
  have waited := tree_await calm before
  have settled {result : Except Refusal (List String)} {after : Surroundings}
      (listed : Listed schedule (collector.below root) (before.await schedule) result after) :
      after.tree = before.tree ∧ listFiles before.tree (collector.directoryIn root) = result := by
    have still : ((before.await schedule).await schedule).tree = before.tree := by
      rw [tree_await calm, waited]
    cases listed with
    | refused unlisted =>
      rw [still] at unlisted
      exact ⟨still, listFiles_of_unlisted unlisted⟩
    | disturbed lists changed =>
      obtain ⟨_, unchanged, -⟩ := afterListing_of_calm calm ((before.await schedule).await schedule)
      rw [unchanged] at changed
      cases changed
    | names lists changed =>
      obtain ⟨_, unchanged, kept⟩ := afterListing_of_calm calm ((before.await schedule).await schedule)
      rw [unchanged] at changed
      cases changed
      rw [still] at lists
      exact ⟨kept.trans still, listFiles_of_lists lists⟩
  unfold stopIn
  cases meets with
  | refused untold =>
    rw [waited] at untold
    exact ⟨waited, nofun, fun fault ends _ => by cases ends; rw [untold]⟩
  | missing absent =>
    rw [waited] at absent
    exact ⟨waited, fun _ stop here => by cases here; rw [absent], nofun⟩
  | noLogs present listed absent =>
    obtain ⟨kept, listing⟩ := settled listed
    rw [waited] at present
    refine ⟨kept, fun _ stop here => ?_, nofun⟩
    cases here
    simp only [present, listing, if_pos absent]
  | unlisted present listed there =>
    obtain ⟨kept, listing⟩ := settled listed
    rw [waited] at present
    refine ⟨kept, fun _ stop here => ?_, nofun⟩
    cases here
    simp only [present, listing, if_neg there]
    rfl
  | listed present listed round =>
    obtain ⟨kept, listing⟩ := settled listed
    rw [waited] at present
    obtain ⟨same, done, ends⟩ := visits_of_round calm owned round
    rw [kept] at same done ends
    simp only [present, listing]
    refine ⟨same, fun returns stop here => ?_, fun fault stops untroubled => ?_⟩
    · cases here
      obtain ⟨rfl, fits⟩ := done returns
      unfold listedOf
      rw [show collector.directoryIn root = collector.below root from rfl, fits]
    · have unfit := ends fault stops untroubled
      unfold listedOf
      rw [show collector.directoryIn root = collector.below root from rfl, unfit]

/-- A survey makes the stops that the tree has at each root, or ends as the tree has it. -/
private theorem stops_of_survey (owned : collector.owner = .fixed owner) {roots : List Path}
    {stops : List Stop} {ending : Option CollectFault} {after : Surroundings}
    (survey : Survey host schedule collector question before roots stops ending after) :
    (ending = none → roots.mapM (stopIn host schedule before.tree collector owner) = .ok stops) ∧
    ∀ fault, ending = some fault → schedule.Untroubled →
      roots.mapM (stopIn host schedule before.tree collector owner) = .error fault := by
  induction survey with
  | done => exact ⟨fun _ => rfl, nofun⟩
  | last meets =>
    obtain ⟨-, -, ends⟩ := stopIn_of_meets calm owned meets
    refine ⟨nofun, fun fault stops untroubled => ?_⟩
    rw [List.mapM_cons, ends fault stops untroubled]
    rfl
  | next meets rest ih =>
    obtain ⟨kept, here, -⟩ := stopIn_of_meets calm owned meets
    rw [kept] at ih
    constructor
    · intro returns
      rw [List.mapM_cons, here rfl _ rfl, ih.1 returns]
      rfl
    · intro fault ends untroubled
      rw [List.mapM_cons, here rfl _ rfl, ih.2 fault ends untroubled]
      rfl

/-- What a collection that returned gained, it gained at its stops. -/
theorem stops_of_produce (owned : collector.owner = .fixed owner) {queries : Nat}
    {collection : Collection}
    (made : collector.produce host schedule tree queries = .ok () collection) :
    ∃ stops, collector.roots.mapM (stopIn host schedule tree collector owner) = .ok stops ∧
      GainsFrom (.fixed owner) stops none { tree := tree, queries := queries } collection := by
  obtain ⟨stops, ending, after, survey⟩ := exists_survey host schedule collector collector.roots
    queries { tree := tree }
  obtain ⟨state, gone, -, gains⟩ :=
    forM_of_survey survey { tree := tree, queries := queries } rfl fun _ => rfl
  rw [produce_eq, gone] at made
  cases ending with
  | some fault => cases made
  | none =>
    cases made
    rw [owned] at gains
    exact ⟨stops, (stops_of_survey calm owned survey).1 rfl, gains.items, gains.included,
      gains.mismatches, gains.skipped, gains.missingRoots, gains.queries⟩

/-- While bytes can be put aside, a collection for one user ends as the tree has it. -/
theorem produce_of_stops (untroubled : schedule.Untroubled) (host : Host) (tree : FileTree)
    (owned : collector.owner = .fixed owner) (queries : Nat) :
    (∀ stops, collector.roots.mapM (stopIn host schedule tree collector owner) = .ok stops →
      ∃ collection, collector.produce host schedule tree queries = .ok () collection ∧
        GainsFrom (.fixed owner) stops none { tree := tree, queries := queries } collection) ∧
    ∀ fault, collector.roots.mapM (stopIn host schedule tree collector owner) = .error fault →
      ∃ collection, collector.produce host schedule tree queries = .error fault collection := by
  cases produced : collector.produce host schedule tree queries with
  | ok _ collection =>
    obtain ⟨stops, told, gains⟩ := stops_of_produce calm owned produced
    rw [told]
    constructor
    · rintro _ ⟨⟩
      exact ⟨collection, rfl, gains⟩
    · rintro fault ⟨⟩
  | error fault collection =>
    obtain ⟨stops, ending, after, survey⟩ := exists_survey host schedule collector collector.roots
      queries { tree := tree }
    obtain ⟨state, gone, -, -⟩ :=
      forM_of_survey survey { tree := tree, queries := queries } rfl fun _ => rfl
    rw [produce_eq, gone] at produced
    cases ending with
    | none => cases produced
    | some fault =>
      cases produced
      rw [(stops_of_survey calm owned survey).2 fault rfl untroubled]
      constructor
      · rintro stops ⟨⟩
      · rintro _ ⟨⟩
        exact ⟨_, rfl⟩

end Calm

end ContainerLogs.Collector
