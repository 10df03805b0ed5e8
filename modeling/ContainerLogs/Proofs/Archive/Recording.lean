import ContainerLogs.Proofs.Archive.Rendering

/-!
Feeds that keep a record of what they have given. Reading programs look at nothing but the pieces
that they are given, so they do the same on a recorded feed as on the feed itself: what the record
says was given is what the program was given.
-/
namespace ContainerLogs

/-- A feed, and all that was given of it so far. -/
structure Recorded (σ : Type) where
  feed : σ
  given : Bytes := []

namespace Recorded

variable {σ : Type} [Feed σ]

def pull (demand : Nat) : Reading (Recorded σ) Bytes := fun recorded =>
  match Feed.pull demand recorded.feed with
  | .ok piece rest => .ok piece ⟨rest, recorded.given ++ piece⟩
  | .error fault rest => .error fault ⟨rest, recorded.given⟩

private theorem pull_eq_ok {demand : Nat} {before after : Recorded σ} {piece : Bytes}
    (pulled : pull demand before = .ok piece after) :
    Feed.pull demand before.feed = .ok piece after.feed ∧ after.given = before.given ++ piece := by
  unfold pull at pulled
  split at pulled
  · rename_i given
    cases pulled
    exact ⟨given, rfl⟩
  · cases pulled

instance : Feed (Recorded σ) where
  left recorded := Feed.left recorded.feed
  pull := pull
  left_of_pull pulled := Feed.left_of_pull (pull_eq_ok pulled).1
  left_of_refusal := by
    intro demand recorded fault rest refused
    unfold pull at refused
    split at refused
    · cases refused
    · rename_i refused'
      cases refused
      exact Feed.left_of_refusal refused'
  length_of_pull pulled := Feed.length_of_pull (pull_eq_ok pulled).1
  pull_progress := by
    intro demand recorded positive some_left
    obtain ⟨piece, rest, pulled, nonempty⟩ := Feed.pull_progress positive some_left
    refine ⟨piece, ⟨rest, recorded.given ++ piece⟩, ?_, nonempty⟩
    unfold pull
    rw [pulled]

/-- A feed that gives what it has does so while it is recorded, and the record goes on where what is
left starts. -/
private theorem willing {kind : σ → Prop} (willing : Feed.Willing kind) (whole : Bytes) :
    Feed.Willing fun recorded : Recorded σ =>
      kind recorded.feed ∧ recorded.given ++ Feed.left recorded.feed = whole := by
  rintro recorded demand ⟨here, account⟩ positive
  obtain ⟨piece, rest, pulled, there⟩ := willing recorded.feed demand here positive
  refine ⟨piece, ⟨rest, recorded.given ++ piece⟩, ?_, there, ?_⟩
  · change pull demand recorded = _
    unfold pull
    rw [pulled]
  · rw [Feed.left_of_pull pulled] at account
    rw [List.append_assoc]
    exact account

end Recorded

namespace Reading

variable {σ τ α β : Type}

/-- A result with another view of the feed that it leaves. -/
def seen (view : σ → τ) : EStateM.Result ReadFault σ α → EStateM.Result ReadFault τ α
  | .ok a rest => .ok a (view rest)
  | .error fault rest => .error fault (view rest)

/-- A program on a feed does the same as another one does on a view of the feed. -/
def Mirrors (view : σ → τ) (program : Reading σ α) (image : Reading τ α) : Prop :=
  ∀ feed, image (view feed) = seen view (program feed)

namespace Mirrors

variable {view : σ → τ}

private theorem pure (a : α) : Mirrors view (pure a) (pure a) := fun _ => rfl

private theorem throw (fault : ReadFault) :
    Mirrors (α := α) view (throw fault) (throw fault) := fun _ => rfl

private theorem bind {program : Reading σ α} {image : Reading τ α} {next : α → Reading σ β}
    {next' : α → Reading τ β} (first : Mirrors view program image)
    (others : ∀ a, Mirrors view (next a) (next' a)) :
    Mirrors view (program >>= next) (image >>= next') := by
  intro feed
  have same := first feed
  cases made : program feed with
  | ok a rest =>
    rw [made] at same
    rw [Running.bind_of_ok same, Running.bind_of_ok made]
    exact others a rest
  | error fault rest =>
    rw [made] at same
    rw [Running.bind_of_error same, Running.bind_of_error made]
    rfl

end Mirrors

end Reading

open Reading (Mirrors seen)

/-- Pieces are given of a feed as they are of a view of it. -/
def Feed.Seen {σ τ : Type} [Feed σ] [Feed τ] (view : σ → τ) : Prop :=
  ∀ demand, Mirrors view (Feed.pull demand) (Feed.pull demand)

private theorem Recorded.seen_feed {σ : Type} [Feed σ] :
    Feed.Seen (Recorded.feed : Recorded σ → σ) := by
  intro demand recorded
  change Feed.pull demand recorded.feed = seen _ (Recorded.pull demand recorded)
  unfold Recorded.pull
  cases Feed.pull demand recorded.feed <;> rfl

namespace Feed.Seen

variable {σ τ : Type} [Feed σ] [Feed τ] {view : σ → τ} (seen_as : Feed.Seen view)
include seen_as

private theorem gather (wanted missing : Nat) (pieces : List Bytes) :
    Mirrors view (Feed.gather wanted missing pieces) (Feed.gather wanted missing pieces) := by
  intro feed
  fun_induction Feed.gather wanted missing pieces feed with
  | case1 pieces feed =>
    rw [Feed.gather, if_pos rfl]
    rfl
  | case2 missing pieces feed unmet fault rest refused =>
    have image := seen_as missing feed
    rw [refused] at image
    rw [Feed.gather, if_neg unmet, image]
    rfl
  | case3 missing pieces feed unmet rest pulled =>
    have image := seen_as missing feed
    rw [pulled] at image
    rw [Feed.gather, if_neg unmet, image]
    rfl
  | case4 missing pieces feed unmet octet piece rest pulled ih =>
    have image := seen_as missing feed
    rw [pulled] at image
    rw [Feed.gather, if_neg unmet, image]
    exact ih

private theorem readExact (wanted : Nat) :
    Mirrors view (Feed.readExact wanted) (Feed.readExact wanted) :=
  seen_as.gather wanted wanted []

private theorem readInt : Mirrors view Feed.readInt Feed.readInt :=
  (seen_as.readExact _).bind fun _ => .pure _

private theorem readLong : Mirrors view Feed.readLong Feed.readLong :=
  (seen_as.readExact _).bind fun _ => .pure _

private theorem readLength (what : String) :
    Mirrors view (Feed.readLength what) (Feed.readLength what) := by
  apply seen_as.readInt.bind
  intro n
  cases n with
  | ofNat n => exact .pure n
  | negSucc n => exact .throw _

private theorem readIntOrEnd : Mirrors view Feed.readIntOrEnd Feed.readIntOrEnd := by
  apply (seen_as Wire.intWidth).bind
  intro first
  by_cases nothing : first.isEmpty
  · simp only [nothing, if_true]
    exact .pure none
  · simp only [nothing]
    exact (seen_as.readExact _).bind fun _ => .pure _

end Feed.Seen

namespace Archive

variable {σ τ : Type} [Feed σ] [Feed τ] {view : σ → τ} (seen_as : Feed.Seen view)
include seen_as

private theorem Head.read?_seen : Mirrors view Head.read? Head.read? := by
  apply seen_as.readIntOrEnd.bind
  intro first?
  cases first? with
  | none => exact .pure none
  | some first =>
    by_cases marked : first = Item.diagnosticMark
    · simp only [marked, if_true]
      exact (seen_as.readLength _).bind fun _ => (seen_as.readExact _).bind fun _ => .pure _
    · simp only [marked, if_false]
      cases first with
      | negSucc n => exact .throw _
      | ofNat nameLength =>
        apply (seen_as.readExact nameLength).bind
        intro name
        apply seen_as.readLong.bind
        intro length
        cases length with
        | ofNat length => exact .pure _
        | negSucc n => exact .throw _

private theorem copyText_seen (remaining : Nat) (state : Text.Utf8.State) (out : String)
    (feed : σ) :
    copyText remaining state out (view feed) =
      ⟨(copyText remaining state out feed).out, (copyText remaining state out feed).fault,
        view (copyText remaining state out feed).feed⟩ := by
  fun_induction copyText remaining state out feed with
  | case1 state out feed =>
    rw [copyText, if_pos rfl]
  | case2 remaining state out feed unfinished fault rest failed =>
    have image := seen_as.readExact (min pieceBytes remaining) feed
    rw [failed] at image
    rw [copyText, if_neg unfinished, image]
    rfl
  | case3 remaining state out feed unfinished piece rest read state' units decoded ih =>
    have image := seen_as.readExact (min pieceBytes remaining) feed
    rw [read] at image
    rw [copyText, if_neg unfinished, image]
    simp only [seen, decoded]
    exact ih

/-- A rendering shows of a feed what it shows of a view of it, and leaves the view of what it leaves.
-/
private theorem render_seen (out : String) (feed : σ) :
    render out (view feed) =
      ⟨(render out feed).out, (render out feed).fault, view (render out feed).feed⟩ := by
  fun_induction render out feed with
  | case1 out feed fault rest failed =>
    have image := Head.read?_seen seen_as feed
    rw [failed] at image
    rw [render_eq, image]
    rfl
  | case2 out feed rest ended =>
    have image := Head.read?_seen seen_as feed
    rw [ended] at image
    rw [render_eq, image]
    rfl
  | case3 out feed message rest read ih =>
    have image := Head.read?_seen seen_as feed
    rw [read] at image
    rw [render_eq, image]
    exact ih
  | case4 out feed name length rest read copied complete ih =>
    have image := Head.read?_seen seen_as feed
    rw [read] at image
    rw [render_eq, image]
    simp only [seen]
    rw [copyText_seen seen_as, if_pos complete]
    exact ih
  | case5 out feed name length rest read copied incomplete =>
    have image := Head.read?_seen seen_as feed
    rw [read] at image
    rw [render_eq, image]
    simp only [seen]
    rw [copyText_seen seen_as, if_neg incomplete]

omit seen_as in
/-- A rendering of a feed that gives what it has takes bytes off its front, and no others. -/
theorem given_of_render {kind : σ → Prop} (willing : Feed.Willing kind) (feed : σ)
    (here : kind feed) (out : String) :
    (render out ({ feed } : Recorded σ)).feed.given ++ Feed.left (render out feed).feed =
        Feed.left feed ∧ kind (render out feed).feed := by
  let start : Recorded σ := { feed }
  obtain ⟨items, remnant, itemized⟩ := exists_itemized (Feed.left start)
  obtain ⟨fault, rest, rendered, -, -, there, account⟩ :=
    render_of_itemized (Recorded.willing willing (Feed.left feed)) ⟨here, rfl⟩ itemized out rfl
  have left_behind : (render out feed).feed = (render out start).feed.feed :=
    congrArg Rendered.feed (render_seen Recorded.seen_feed out start)
  rw [left_behind, rendered]
  exact ⟨account, there⟩

end Archive

end ContainerLogs
