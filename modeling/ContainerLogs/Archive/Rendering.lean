import ContainerLogs.Archive.Item
import ContainerLogs.Wire.Feed

/-!
The readable form of a record's value. Every entry comes under a heading with its name and length,
every diagnostic on a line of its own. Texts are decoded leniently; contents are decoded piece by
piece, with the decoder's state carried from one piece to the next. What was written before a fault
stays written.
-/
namespace ContainerLogs.Archive

/-- Contents are copied in pieces of this many bytes. -/
def pieceBytes : Nat := 65536

/-- A text under construction, what stopped it, and the feed as it was left. -/
structure Rendered (σ : Type) where
  out : String
  fault : Option ReadFault
  feed : σ

/-- What an item starts with: a whole diagnostic, or the name and length of a content to come. -/
inductive Head where
  | diagnostic (message : String)
  | entry (name : String) (length : Nat)
  deriving DecidableEq, Repr

namespace Head

def heading (name : String) (length : Nat) : String :=
  "\n\nLogType:" ++ name ++ "\nLogLength:" ++ Text.decimal length ++ "\nLog Contents:\n"

variable {σ : Type} [Feed σ]

/-- The head of the next item, if the feed is not at its end. -/
def read? : Reading σ (Option Head) := do
  match ← Feed.readIntOrEnd with
  | none => pure none
  | some first =>
      if first = Item.diagnosticMark then
        let length ← Feed.readLength "message"
        let message ← Feed.readExact length
        pure (some (.diagnostic (Text.Utf8.decodeLenient message)))
      else match first with
        | .negSucc _ => throw (.negativeLength "log type" first)
        | .ofNat nameLength =>
            let name := Text.Utf8.decodeLenient (← Feed.readExact nameLength)
            match ← Feed.readLong with
            | .ofNat length => pure (some (.entry name length))
            | length => throw (.negativeContent length name)

theorem size_of_read? {before after : σ} {head : Head}
    (read : read? before = .ok (some head) after) :
    (Feed.left after).length < (Feed.left before).length := by
  obtain ⟨first, between, start, read⟩ := Reading.bind_eq_ok.1 read
  split at read
  · exact absurd (Reading.pure_eq_ok.1 read).1 (by simp)
  · have startSize := Feed.size_of_readIntOrEnd start
    split at read
    · obtain ⟨length, between, lengthRead, read⟩ := Reading.bind_eq_ok.1 read
      obtain ⟨message, between, exact, read⟩ := Reading.bind_eq_ok.1 read
      obtain ⟨_, rfl⟩ := Reading.pure_eq_ok.1 read
      have lengthSize := Feed.size_of_readLength lengthRead
      have messageSize := Feed.size_of_readExact exact
      omega
    · split at read
      · exact absurd read Reading.throw_ne_ok
      · obtain ⟨name, between, exact, read⟩ := Reading.bind_eq_ok.1 read
        obtain ⟨length, between, long, read⟩ := Reading.bind_eq_ok.1 read
        have nameSize := Feed.size_of_readExact exact
        have longSize := Feed.size_of_readLong long
        split at read
        · obtain ⟨_, rfl⟩ := Reading.pure_eq_ok.1 read
          omega
        · exact absurd read Reading.throw_ne_ok

end Head

/-- Copies that many bytes of content as text. -/
def copyText {σ : Type} [Feed σ] (remaining : Nat) (state : Text.Utf8.State) (out : String)
    (feed : σ) : Rendered σ :=
  if remaining = 0 then
    ⟨out ++ String.ofList ((Text.Utf8.finish state).map Text.Utf8.shown), none, feed⟩
  else
    match Feed.readExact (min pieceBytes remaining) feed with
    | .error fault feed => ⟨out, some fault, feed⟩
    | .ok piece feed =>
        let (state, units) := Text.Utf8.feed piece state []
        copyText (remaining - min pieceBytes remaining) state
          (out ++ String.ofList (units.reverse.map Text.Utf8.shown)) feed
termination_by remaining
decreasing_by
  have : 0 < pieceBytes := by decide
  omega

theorem size_of_copyText {σ : Type} [Feed σ] (remaining : Nat) (state : Text.Utf8.State)
    (out : String) (feed : σ) (complete : (copyText remaining state out feed).fault = none) :
    (Feed.left (copyText remaining state out feed).feed).length ≤ (Feed.left feed).length := by
  fun_induction copyText remaining state out feed with
  | case1 => exact Nat.le_refl _
  | case2 => cases complete
  | case3 remaining state out feed nonzero piece rest read state' units decoded ih =>
      have size := Feed.size_of_readExact read
      have := ih complete
      omega

/-- Renders the items of a value after the text so far. -/
def render {σ : Type} [Feed σ] (out : String) (feed : σ) : Rendered σ :=
  match _read : Head.read? feed with
  | .error fault rest => ⟨out, some fault, rest⟩
  | .ok none rest => ⟨out, none, rest⟩
  | .ok (some (.diagnostic message)) rest => render (out ++ "\n" ++ message ++ "\n") rest
  | .ok (some (.entry name length)) rest =>
      let copied := copyText length .start (out ++ Head.heading name length) rest
      if _complete : copied.fault = none then render copied.out copied.feed else copied
termination_by (Feed.left feed).length
decreasing_by
  · exact Head.size_of_read? _read
  · exact Nat.lt_of_le_of_lt (size_of_copyText _ _ _ _ _complete) (Head.size_of_read? _read)

end ContainerLogs.Archive
