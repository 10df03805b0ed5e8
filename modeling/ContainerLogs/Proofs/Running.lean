/-!
Programs with a state and faults, run step by step: what a program does first decides where the rest
of it goes on, or that it ends there.
-/
namespace ContainerLogs.Running

variable {ε σ α β ι : Type} {state before between : σ}

theorem bind_of_ok {first : EStateM ε σ α} {a : α} (made : first before = .ok a between)
    (next : α → EStateM ε σ β) : (first >>= next) before = next a between := by
  change EStateM.bind first next before = _
  rw [EStateM.bind, made]

theorem bind_of_error {first : EStateM ε σ α} {fault : ε} (failed : first before = .error fault between)
    (next : α → EStateM ε σ β) : (first >>= next) before = .error fault between := by
  change EStateM.bind first next before = _
  rw [EStateM.bind, failed]

/-- The state that a program leaves, whether it is done or not. -/
def leaving : EStateM.Result ε σ α → σ
  | .ok _ after => after
  | .error _ after => after

/-- What a program that is done yields, with the state it leaves. -/
def yielded? : EStateM.Result ε σ α → Option (α × σ)
  | .ok a after => some (a, after)
  | .error .. => none

theorem yielded?_eq_some_iff {result : EStateM.Result ε σ α} {a : α} {after : σ} :
    yielded? result = some (a, after) ↔ result = .ok a after := by
  cases result <;> simp [yielded?]

/-- A program that is done was done with its first step. -/
theorem ok_of_bind {first : EStateM ε σ α} {next : α → EStateM ε σ β} {after : σ} {b : β}
    (made : (first >>= next) before = .ok b after) :
    ∃ a between, first before = .ok a between ∧ next a between = .ok b after := by
  cases begun : first before with
  | ok a between =>
    rw [bind_of_ok begun] at made
    exact ⟨a, between, rfl, made⟩
  | error fault between =>
    rw [bind_of_error begun] at made
    cases made

/-- A program that fails failed with its first step or behind it. -/
theorem error_of_bind {first : EStateM ε σ α} {next : α → EStateM ε σ β} {after : σ} {fault : ε}
    (failed : (first >>= next) before = .error fault after) :
    first before = .error fault after ∨
      ∃ a between, first before = .ok a between ∧ next a between = .error fault after := by
  cases begun : first before with
  | ok a between =>
    rw [bind_of_ok begun] at failed
    exact .inr ⟨a, between, rfl, failed⟩
  | error fault between =>
    rw [bind_of_error begun] at failed
    cases failed
    exact .inl rfl

/-- A program whose faults are never made good is done only if it met with none. -/
theorem ok_of_tryCatch {body : EStateM ε σ α} {handle : ε → EStateM ε σ α} {after : σ} {a : α}
    (stops : ∀ fault between a after, handle fault between ≠ .ok a after)
    (made : (tryCatch body handle : EStateM ε σ α) before = .ok a after) :
    body before = .ok a after := by
  change EStateM.tryCatch body handle before = _ at made
  unfold EStateM.tryCatch at made
  cases begun : body before with
  | ok a between =>
    simp only [begun] at made
    exact made
  | error fault between =>
    simp only [begun] at made
    exact absurd made (stops _ _ _ _)

/-- A program without faults needs none made good. -/
theorem tryCatch_of_ok {body : EStateM ε σ α} {a : α} (made : body before = .ok a between)
    (handle : ε → EStateM ε σ α) :
    (tryCatch body handle : EStateM ε σ α) before = .ok a between := by
  change EStateM.tryCatch body handle before = _
  unfold EStateM.tryCatch
  simp only [made]

theorem tryCatch_of_error {body : EStateM ε σ α} {fault : ε}
    (failed : body before = .error fault between) (handle : ε → EStateM ε σ α) :
    (tryCatch body handle : EStateM ε σ α) before = handle fault between := by
  change EStateM.tryCatch body handle before = _
  unfold EStateM.tryCatch
  simp only [failed]
  rfl

/-- Programs that begin alike go on alike. -/
theorem bind_of_eq {first first' : EStateM ε σ α} {before' : σ} (same : first before = first' before')
    (next : α → EStateM ε σ β) : (first >>= next) before = (first' >>= next) before' := by
  change EStateM.bind first next before = EStateM.bind first' next before'
  rw [EStateM.bind, EStateM.bind, same]

@[simp] theorem get_bind (next : σ → EStateM ε σ β) :
    ((get : EStateM ε σ σ) >>= next) state = next state state := rfl

@[simp] theorem modify_bind (change : σ → σ) (next : PUnit → EStateM ε σ β) :
    ((modify change : EStateM ε σ PUnit) >>= next) state = next ⟨⟩ (change state) := rfl

@[simp] theorem pure_apply (a : α) : (pure a : EStateM ε σ α) state = .ok a state := rfl

/-- Where the step along a list leads at its first item, and what then becomes of the others. -/
theorem forM_cons (step : ι → EStateM ε σ PUnit) (item : ι) (items : List ι) :
    (item :: items).forM step state =
      match step item state with
      | .ok _ between => items.forM step between
      | .error fault between => .error fault between := by
  cases made : step item state with
  | ok _ between => exact bind_of_ok made fun _ => items.forM step
  | error fault between => exact bind_of_error made fun _ => items.forM step

/-- A computation that yields something yields it from what its first step yielded. -/
theorem bind_eq_ok_iff {first : Except ε α} {next : α → Except ε β} {b : β} :
    (first >>= next) = .ok b ↔ ∃ a, first = .ok a ∧ next a = .ok b := by
  cases first with
  | error fault => simp [bind, Except.bind]
  | ok a => simp [bind, Except.bind]

/-- Results that are mapped one by one are mapped together, up to a fault that may be told apart. -/
theorem mapM_eq_map_or {f : ι → Except ε α} {g : ι → Except ε β} {change : α → β} {own : ε → Prop}
    {list : List ι}
    (each : ∀ i ∈ list, g i = (f i).map change ∨ ∃ fault, f i = .error fault ∧ own fault) :
    list.mapM g = (list.mapM f).map (·.map change) ∨
      ∃ fault, list.mapM f = .error fault ∧ own fault := by
  induction list with
  | nil => exact .inl rfl
  | cons first rest ih =>
    obtain ⟨here, others⟩ := List.forall_mem_cons.1 each
    rw [List.mapM_cons, List.mapM_cons]
    rcases here with here | ⟨fault, failed, owned⟩
    · rw [here]
      cases f first with
      | error fault => exact .inl rfl
      | ok a =>
        rcases ih others with same | ⟨fault, failed, owned⟩
        · rw [same]
          left
          cases rest.mapM f <;> rfl
        · rw [failed]
          exact .inr ⟨fault, rfl, owned⟩
    · rw [failed]
      exact .inr ⟨fault, rfl, owned⟩

/-- Results that are had together are had one by one. -/
theorem forall_ok_of_mapM {f : ι → Except ε α} {list : List ι} {results : List α}
    (made : list.mapM f = .ok results) : ∀ i ∈ list, ∃ a, f i = .ok a := by
  induction list generalizing results with
  | nil => nofun
  | cons first rest ih =>
    rw [List.mapM_cons, bind_eq_ok_iff] at made
    obtain ⟨a, here, others⟩ := made
    obtain ⟨as, there, -⟩ := bind_eq_ok_iff.1 others
    rw [List.forall_mem_cons]
    exact ⟨⟨a, here⟩, ih there⟩

/-- Each of the results that are had together is had of something. -/
theorem exists_of_mem_mapM {f : ι → Except ε α} {list : List ι} {results : List α}
    (made : list.mapM f = .ok results) : ∀ a ∈ results, ∃ i ∈ list, f i = .ok a := by
  induction list generalizing results with
  | nil =>
    cases made
    nofun
  | cons first rest ih =>
    rw [List.mapM_cons, bind_eq_ok_iff] at made
    obtain ⟨a, here, others⟩ := made
    obtain ⟨as, there, done⟩ := bind_eq_ok_iff.1 others
    cases done
    rintro b (_ | ⟨_, later⟩)
    · exact ⟨first, List.mem_cons_self, here⟩
    · obtain ⟨i, among, source⟩ := ih there b later
      exact ⟨i, List.mem_cons_of_mem _ among, source⟩

/-- Of each item of a list there is one result. -/
theorem length_of_mapM {f : ι → EStateM ε σ α} {list : List ι} {results : List α} {after : σ}
    (made : list.mapM f before = .ok results after) : results.length = list.length := by
  induction list generalizing before results with
  | nil =>
    cases made
    rfl
  | cons first rest ih =>
    rw [List.mapM_cons] at made
    obtain ⟨a, between, -, made⟩ := ok_of_bind made
    obtain ⟨as, between', others, made⟩ := ok_of_bind made
    cases made
    exact congrArg (· + 1) (ih others)

end ContainerLogs.Running
