import ContainerLogs.Archive.Dump
import ContainerLogs.Proofs.Archive.Delivery
import ContainerLogs.Proofs.Archive.Rendering

/-!
The readable form of an archive. A value is rendered from a window over the archive's file, and
rendering reads exactly to the end of the value, so the next record is found behind it; each record
is shown under its header, and no record is left out.
-/
namespace ContainerLogs.Archive

open Session (Fits)

namespace Window

variable {window : Window} {unread tail : Bytes}

theorem Holds.left_eq (h : window.Holds unread tail) : Feed.left window = unread := by
  change window.left = unread
  rw [left, h.isOpen, if_pos rfl, h.rest, h.remaining, List.take_left]

/-- A value all of whose bytes are there gives what it has, and stays a value of that length. -/
theorem willing (length : Nat) (tail : Bytes) : Feed.Willing fun window : Window =>
    window.value.length = length ∧ ∃ unread, window.Holds unread tail := by
  rintro window demand ⟨same, unread, holds⟩ positive
  obtain ⟨after, pulled, holds', same'⟩ := holds.pull positive
  exact ⟨_, after, pulled, same'.trans same, _, holds'⟩

private theorem prompt (length : Nat) (tail : Bytes) : Feed.Prompt fun window : Window =>
    window.value.length = length ∧ ∃ unread, window.Holds unread tail := by
  rintro window demand ⟨same, unread, holds⟩ positive
  obtain ⟨after, pulled, holds', same'⟩ := holds.pull positive
  rw [holds.left_eq]
  exact ⟨after, pulled, same'.trans same, _, holds'⟩

/-- A value all of whose bytes are there is shown as those bytes are. -/
theorem Holds.render_bytes (h : window.Holds unread tail) (out : String) : ∃ after,
    Archive.render out window =
        ⟨out ++ (Archive.render "" unread).out, (Archive.render "" unread).fault, after⟩ ∧
      after.value.length = window.value.length ∧ ∃ unread', after.Holds unread' tail := by
  obtain ⟨after, rendered, same, holds⟩ :=
    render_of_prompt (prompt window.value.length tail) ⟨rfl, _, h⟩ h.left_eq out
  exact ⟨after, rendered, same, holds⟩

private theorem Holds.render {items : List Item} (h : window.Holds (Item.bytesOfAll items) tail)
    (fits : ∀ item ∈ items, item.Fits) (out : String) : ∃ after,
    render out window = ⟨out ++ String.join (items.map Item.text), none, after⟩ ∧
      after.Holds [] tail ∧ after.value.length = window.value.length := by
  obtain ⟨after, rendered, finished, same, unread, holds⟩ :=
    render_of_items (willing window.value.length tail) ⟨rfl, _, h⟩ fits out h.left_eq
  obtain rfl : unread = [] := holds.left_eq.symm.trans finished
  exact ⟨after, rendered, holds, same⟩

end Window

/-- The head of a container record as it is shown: a line with the id of the container, and a rule as
long as that line. -/
def headText (id : String) : String :=
  "Container: " ++ id ++ "\n" ++ String.ofList (List.replicate (11 + id.length) '=') ++ "\n"

/-- A container record as it is shown: its head, what it holds, and a line end. -/
def recordText (id body : String) : String := headText id ++ body ++ "\n"

theorem header_eq (id : String) : Dump.header ⟨some id⟩ = headText id := by
  have title : "Container: ".length = 11 := by decide
  simp [Dump.header, headText, Key.text, String.length_append, title]

theorem header_append (id body : String) :
    Dump.header ⟨some id⟩ ++ body ++ "\n" = recordText id body := by
  rw [header_eq, recordText]

def shownRecord (id : String) (items : List Item) : String :=
  recordText id (String.join (items.map Item.text))

/-- Records of items, as they are written. -/
def valued (records : List (String × List Item)) : List (String × Bytes) :=
  records.map fun (name, items) => (name, Item.bytesOfAll items)

namespace Reader

variable {reader : Reader} {records : List (String × List Item)}

/-- Every record is shown, in order, until there are no more. -/
private theorem records_of_stands (h : Stands (valued records) reader)
    (ordinary : Ordinary (valued records)) (fits : ∀ record ∈ records, ∀ item ∈ record.2, item.Fits)
    {bound : Nat} (enough : records.length < bound) (out : String) (count : Nat) : ∃ after,
    Dump.records none bound ⟨out, count, none, reader⟩ =
      ⟨out ++ String.join (records.map fun (name, items) => shownRecord name items),
        count + records.length, none, after⟩ := by
  induction records generalizing reader bound out count with
  | nil =>
    cases bound with
    | zero => cases enough
    | succ bound =>
      obtain ⟨after, nothing, -⟩ := next?_at_end h
      exact ⟨after, by simp [Dump.records, nothing]⟩
  | cons record records ih =>
    obtain ⟨name, items⟩ := record
    obtain ⟨⟨plain, fit⟩, others⟩ := List.forall_mem_cons.1 ordinary
    obtain ⟨itemsFit, othersFit⟩ := List.forall_mem_cons.1 fits
    cases bound with
    | zero => cases enough
    | succ bound =>
      obtain ⟨number, handed, next, within⟩ := next?_of_stands h plain fit
      obtain ⟨window, rendered, holds, same⟩ :=
        within.window.render itemsFit (out ++ Dump.header ⟨some name⟩)
      obtain ⟨after, shown⟩ := ih (.inr ⟨_, _, _, within.putBack holds same⟩) others othersFit
        (Nat.lt_of_succ_lt_succ enough)
        (out ++ Dump.header ⟨some name⟩ ++ String.join (items.map Item.text) ++ "\n") (count + 1)
      refine ⟨after, ?_⟩
      rw [Dump.records, next]
      simp only [Dump.wanted, if_true, rendered]
      rw [shown, List.map_cons, String.join_cons, List.length_cons, Nat.add_right_comm,
        Nat.add_assoc, append_after, header_append]
      rfl

theorem dump_of_between (h : Between (valued records) reader) (ordinary : Ordinary (valued records))
    (fits : ∀ record ∈ records, ∀ item ∈ record.2, item.Fits) :
    (reader.dump none).fault = none ∧ (reader.dump none).count = records.length ∧
      (reader.dump none).out =
        String.join (records.map fun (name, items) => shownRecord name items) := by
  have enough : records.length < reader.source.rest.length + 1 := by
    have least := length_le_recordsBytes (named (valued records))
    rw [← h.rest] at least
    simp only [named, valued, List.length_map] at least
    omega
  obtain ⟨after, shown⟩ := records_of_stands (.inl h) ordinary fits enough "" 0
  simp [Reader.dump, shown]

end Reader

end ContainerLogs.Archive
