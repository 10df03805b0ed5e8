import ContainerLogs.Proofs.Archive.Item
import ContainerLogs.Proofs.Text.WellFormed
import ContainerLogs.Wire.Fault
import Mathlib.Data.List.Basic

/-!
The grammar of values. A value is a sequence of items, behind which it ends cleanly, within the
content of an entry, or at a place where no item can start. Every byte string is such a value, and
where one item ends and the next one starts is told by the lengths alone: nothing in a name, a
content or a message can pass for another item, so a value has its items in one way only.
-/
namespace ContainerLogs.Archive

/-- An item as it stands in a value, where its name or message need not be the bytes of a text. -/
inductive RawItem where
  | entry (name content : Bytes)
  | diagnostic (message : Bytes)
  deriving DecidableEq, Repr

namespace RawItem

def bytes : RawItem → Bytes
  | entry name content => Wire.counted name ++ (Wire.long content.length ++ content)
  | diagnostic message => Wire.int Item.diagnosticMark ++ Wire.counted message

def Fits : RawItem → Prop
  | entry name content =>
      Wire.fits Wire.intWidth name.length = true ∧ Wire.fits Wire.longWidth content.length = true
  | diagnostic message => Wire.fits Wire.intWidth message.length = true

instance : DecidablePred Fits
  | entry .. => inferInstanceAs (Decidable (_ ∧ _))
  | diagnostic _ => inferInstanceAs (Decidable (_ = true))

def bytesOfAll (items : List RawItem) : Bytes := items.flatMap bytes

@[simp] theorem bytesOfAll_nil : bytesOfAll [] = [] := rfl

@[simp] theorem bytesOfAll_cons (item : RawItem) (items : List RawItem) :
    bytesOfAll (item :: items) = item.bytes ++ bytesOfAll items := rfl

/-- A diagnostic has the mark where an entry has the length of its name, which is no mark. -/
theorem length_ne_mark (bytes : Bytes) : (bytes.length : Int) ≠ Item.diagnosticMark := by
  simp only [Item.diagnosticMark]
  omega

theorem bytes_ne_nil (item : RawItem) : item.bytes ≠ [] := by
  intro nothing
  have length : item.bytes.length = 0 := by rw [nothing, List.length_nil]
  cases item with
  | entry name content =>
    rw [bytes, List.length_append, Wire.length_counted] at length
    omega
  | diagnostic message =>
    rw [bytes, List.length_append, Wire.length_int] at length
    omega

variable {item item' : RawItem} {tail tail' : Bytes}

/-- An item and what stands behind it are told apart in one way. -/
private theorem bytes_append_inj (fit : item.Fits) (fit' : item'.Fits)
    (same : item.bytes ++ tail = item'.bytes ++ tail') : item = item' ∧ tail = tail' := by
  cases item with
  | entry name content =>
    cases item' with
    | entry name' content' =>
      simp only [bytes, List.append_assoc] at same
      obtain ⟨rfl, sized⟩ := Wire.counted_append_inj fit.1 fit'.1 same
      obtain ⟨lengths, behind⟩ := Wire.long_append_inj fit.2 fit'.2 sized
      obtain ⟨rfl, rfl⟩ := List.append_inj behind (Int.ofNat.inj lengths)
      exact ⟨rfl, rfl⟩
    | diagnostic message =>
      simp only [bytes, Wire.counted, List.append_assoc] at same
      have marked := (Wire.int_append_inj fit.1 (by decide) same).1
      exact absurd marked (length_ne_mark name)
  | diagnostic message =>
    cases item' with
    | entry name content =>
      simp only [bytes, Wire.counted, List.append_assoc] at same
      have marked := (Wire.int_append_inj (by decide) fit'.1 same).1
      exact absurd marked.symm (length_ne_mark name)
    | diagnostic message' =>
      simp only [bytes, List.append_assoc] at same
      obtain ⟨-, behind⟩ := Wire.int_append_inj (by decide) (by decide) same
      obtain ⟨rfl, rfl⟩ := Wire.counted_append_inj fit fit' behind
      exact ⟨rfl, rfl⟩

/-- Items that give the same bytes are the same items, one after the other. -/
private theorem eq_of_bytesOfAll_eq {items others : List RawItem} (fits : ∀ item ∈ items, item.Fits)
    (fits' : ∀ item ∈ others, item.Fits) (same : bytesOfAll items = bytesOfAll others) :
    items = others := by
  induction items generalizing others with
  | nil =>
    cases others with
    | nil => rfl
    | cons other others =>
      rw [bytesOfAll_nil, bytesOfAll_cons] at same
      exact absurd (List.append_eq_nil_iff.1 same.symm).1 other.bytes_ne_nil
  | cons item items ih =>
    cases others with
    | nil =>
      rw [bytesOfAll_nil, bytesOfAll_cons] at same
      exact absurd (List.append_eq_nil_iff.1 same).1 item.bytes_ne_nil
    | cons other others =>
      obtain ⟨fit, rest⟩ := List.forall_mem_cons.1 fits
      obtain ⟨fit', rest'⟩ := List.forall_mem_cons.1 fits'
      rw [bytesOfAll_cons, bytesOfAll_cons] at same
      obtain ⟨rfl, behind⟩ := bytes_append_inj fit fit' same
      rw [ih rest rest' behind]

end RawItem

namespace Item

/-- An item by the bytes of its texts. -/
def raw : Item → RawItem
  | entry name content => .entry (Text.Utf8.encode name) content
  | diagnostic message => .diagnostic (Text.Utf8.encode message)

private theorem bytes_raw (item : Item) : item.raw.bytes = item.bytes := by
  cases item <;> rfl

private theorem fits_raw {item : Item} : item.raw.Fits ↔ item.Fits := by
  cases item <;> exact Iff.rfl

theorem bytesOfAll_raw (items : List Item) :
    RawItem.bytesOfAll (items.map raw) = bytesOfAll items := by
  rw [RawItem.bytesOfAll, List.flatMap_map, bytesOfAll]
  congr 1
  funext item
  exact item.bytes_raw

theorem forall_fits_raw {items : List Item} (fits : ∀ item ∈ items, item.Fits) :
    ∀ item ∈ items.map raw, item.Fits := by
  rw [List.forall_mem_map]
  intro item present
  exact fits_raw.2 (fits item present)

private theorem raw_injective : Function.Injective raw := by
  intro item other same
  cases item with
  | entry name content =>
    cases other with
    | entry name' content' =>
      obtain ⟨names, rfl⟩ := RawItem.entry.inj same
      rw [Text.Utf8.encode_injective names]
    | diagnostic => cases same
  | diagnostic message =>
    cases other with
    | entry => cases same
    | diagnostic message' => rw [Text.Utf8.encode_injective (RawItem.diagnostic.inj same)]

/-- The items of a value are told by its bytes: whatever bytes a name, a content or a message is made
of, they stand for no other item, hide none and split none. -/
theorem bytesOfAll_inj {items others : List Item} (fits : ∀ item ∈ items, item.Fits)
    (fits' : ∀ item ∈ others, item.Fits) : bytesOfAll items = bytesOfAll others ↔ items = others := by
  constructor
  · intro same
    have raws : RawItem.bytesOfAll (items.map raw) = RawItem.bytesOfAll (others.map raw) := by
      rw [bytesOfAll_raw, bytesOfAll_raw, same]
    have equal := RawItem.eq_of_bytesOfAll_eq (forall_fits_raw fits) (forall_fits_raw fits') raws
    exact List.map_injective_iff.2 raw_injective equal
  · rintro rfl
    rfl

/-- A content made of the bytes of a whole diagnostic and another entry does not stand for them. -/
theorem imitation_told_apart :
    let forged := [diagnostic "mismatch", entry "stderr" [104, 105]]
    (∀ item ∈ [entry "stdout" (bytesOfAll forged)], item.Fits) ∧
      (∀ item ∈ entry "stdout" [] :: forged, item.Fits) ∧
      bytesOfAll [entry "stdout" (bytesOfAll forged)] ≠ bytesOfAll (entry "stdout" [] :: forged) := by
  refine ⟨by decide, by decide, ?_⟩
  rw [Ne, bytesOfAll_inj (by decide) (by decide)]
  decide

end Item

/-- What is wrong with the bytes at a place where an item should start, and the fault that tells of
it. -/
inductive Flawed : Bytes → ReadFault → Prop where
  | shortStart {bytes : Bytes} (some_left : bytes ≠ []) (short : bytes.length < Wire.intWidth) :
      Flawed bytes (.streamEnded (Wire.intWidth - bytes.length) 0)
  | negativeName {n : Int} {tail : Bytes} (inRange : Wire.fits Wire.intWidth n = true)
      (negative : n < 0) (unmarked : n ≠ Item.diagnosticMark) :
      Flawed (Wire.int n ++ tail) (.negativeLength "log type" n)
  | shortName {length : Nat} {tail : Bytes} (inRange : Wire.fits Wire.intWidth length = true)
      (short : tail.length < length) :
      Flawed (Wire.int length ++ tail) (.streamEnded length tail.length)
  | shortContentLength {name tail : Bytes} (inRange : Wire.fits Wire.intWidth name.length = true)
      (short : tail.length < Wire.longWidth) :
      Flawed (Wire.counted name ++ tail) (.streamEnded Wire.longWidth tail.length)
  | negativeContent {name : Bytes} {n : Int} {tail : Bytes}
      (inRange : Wire.fits Wire.intWidth name.length = true)
      (inRange' : Wire.fits Wire.longWidth n = true) (negative : n < 0) :
      Flawed (Wire.counted name ++ (Wire.long n ++ tail))
        (.negativeContent n (Text.Utf8.decodeLenient name))
  | shortMessageLength {tail : Bytes} (short : tail.length < Wire.intWidth) :
      Flawed (Wire.int Item.diagnosticMark ++ tail) (.streamEnded Wire.intWidth tail.length)
  | negativeMessage {n : Int} {tail : Bytes} (inRange : Wire.fits Wire.intWidth n = true)
      (negative : n < 0) :
      Flawed (Wire.int Item.diagnosticMark ++ (Wire.int n ++ tail)) (.negativeLength "message" n)
  | shortMessage {length : Nat} {tail : Bytes} (inRange : Wire.fits Wire.intWidth length = true)
      (short : tail.length < length) :
      Flawed (Wire.int Item.diagnosticMark ++ (Wire.int length ++ tail))
        (.streamEnded length tail.length)

/-- What stands behind the whole items of a value. -/
inductive Remnant where
  | clean
  /-- The name and length of an entry, and less of its content than the length says. -/
  | cut (name : Bytes) (length : Nat) (present : Bytes)
  /-- Bytes that no item starts with. -/
  | flawed (fault : ReadFault)

/-- A value by its items and its remnant. -/
inductive Itemized : Bytes → List RawItem → Remnant → Prop where
  | clean : Itemized [] [] .clean
  | cut {name : Bytes} {length : Nat} {present : Bytes}
      (inRange : Wire.fits Wire.intWidth name.length = true)
      (inRange' : Wire.fits Wire.longWidth length = true) (short : present.length < length) :
      Itemized (Wire.counted name ++ (Wire.long length ++ present)) [] (.cut name length present)
  | flawed {bytes : Bytes} {fault : ReadFault} (flaw : Flawed bytes fault) :
      Itemized bytes [] (.flawed fault)
  | item {item : RawItem} {bytes : Bytes} {items : List RawItem} {remnant : Remnant}
      (fit : item.Fits) (others : Itemized bytes items remnant) :
      Itemized (item.bytes ++ bytes) (item :: items) remnant

/-- A message, behind the mark of a diagnostic. -/
private theorem flawed_or_diagnostic (bytes : Bytes) :
    (∃ fault, Flawed (Wire.int Item.diagnosticMark ++ bytes) fault) ∨
      ∃ message tail, (RawItem.diagnostic message).Fits ∧
        Wire.int Item.diagnosticMark ++ bytes = (RawItem.diagnostic message).bytes ++ tail := by
  by_cases short : bytes.length < Wire.intWidth
  · exact .inl ⟨_, .shortMessageLength short⟩
  obtain ⟨n, inRange, split⟩ := Wire.exists_signed (by decide) (Nat.le_of_not_lt short)
  rw [split]
  generalize bytes.drop Wire.intWidth = text
  cases n with
  | negSucc n => exact .inl ⟨_, .negativeMessage inRange (Int.negSucc_lt_zero n)⟩
  | ofNat length =>
    rcases Wire.short_or_counted inRange text with short | ⟨message, tail, fit, whole⟩
    · exact .inl ⟨_, .shortMessage inRange short⟩
    refine .inr ⟨message, tail, fit, ?_⟩
    rw [RawItem.bytes, List.append_assoc]
    exact congrArg (Wire.int Item.diagnosticMark ++ ·) whole

/-- The length and the content, behind the name of an entry. -/
private theorem flawed_or_content {name : Bytes}
    (inRange : Wire.fits Wire.intWidth name.length = true) (bytes : Bytes) :
    (∃ fault, Flawed (Wire.counted name ++ bytes) fault) ∨
      ∃ (length : Nat) (present : Bytes), Wire.fits Wire.longWidth length = true ∧
        bytes = Wire.long length ++ present := by
  by_cases short : bytes.length < Wire.longWidth
  · exact .inl ⟨_, .shortContentLength inRange short⟩
  obtain ⟨n, inRange', split⟩ := Wire.exists_signed (by decide) (Nat.le_of_not_lt short)
  cases n with
  | negSucc n =>
    rw [split]
    exact .inl ⟨_, .negativeContent inRange inRange' (Int.negSucc_lt_zero n)⟩
  | ofNat length => exact .inr ⟨length, _, inRange', split⟩

/-- Where a value goes on, there is a flaw, the name and length of an entry, or a whole diagnostic. -/
private theorem flawed_or_head {bytes : Bytes} (some_left : bytes ≠ []) :
    (∃ fault, Flawed bytes fault) ∨
      (∃ message tail, (RawItem.diagnostic message).Fits ∧
        bytes = (RawItem.diagnostic message).bytes ++ tail) ∨
      ∃ (name : Bytes) (length : Nat) (present : Bytes),
        Wire.fits Wire.intWidth name.length = true ∧ Wire.fits Wire.longWidth length = true ∧
          bytes = Wire.counted name ++ (Wire.long length ++ present) := by
  by_cases short : bytes.length < Wire.intWidth
  · exact .inl ⟨_, .shortStart some_left short⟩
  obtain ⟨n, inRange, split⟩ := Wire.exists_signed (by decide) (Nat.le_of_not_lt short)
  rw [split]
  generalize bytes.drop Wire.intWidth = behind
  by_cases marked : n = Item.diagnosticMark
  · rw [marked]
    rcases flawed_or_diagnostic behind with flawed | diagnostic
    · exact .inl flawed
    · exact .inr (.inl diagnostic)
  cases n with
  | negSucc n => exact .inl ⟨_, .negativeName inRange (Int.negSucc_lt_zero n) marked⟩
  | ofNat length =>
    rcases Wire.short_or_counted inRange behind with short | ⟨name, sized, inRange', whole⟩
    · exact .inl ⟨_, .shortName inRange short⟩
    change (∃ fault, Flawed (Wire.int length ++ behind) fault) ∨ _
    rcases flawed_or_content inRange' sized with flawed | ⟨length, present, inRange'', rfl⟩
    · rw [← whole] at flawed
      exact .inl flawed
    · exact .inr (.inr ⟨name, length, present, inRange', inRange'', whole⟩)

/-- Every byte string is a value, with something behind its items or nothing. -/
theorem exists_itemized (bytes : Bytes) : ∃ items remnant, Itemized bytes items remnant := by
  induction count : bytes.length using Nat.strongRecOn generalizing bytes with
  | ind count ih =>
    subst count
    by_cases some_left : bytes = []
    · exact ⟨[], .clean, some_left ▸ .clean⟩
    -- A whole item in front leaves less to itemize.
    have after_item {item : RawItem} {tail : Bytes} (fit : item.Fits) (whole : bytes = item.bytes ++ tail) :
        ∃ items remnant, Itemized bytes items remnant := by
      have shorter : tail.length < bytes.length := by
        have nonempty := List.length_pos_iff.2 item.bytes_ne_nil
        rw [whole, List.length_append]
        omega
      obtain ⟨items, remnant, others⟩ := ih _ shorter _ rfl
      exact ⟨item :: items, remnant, whole ▸ .item fit others⟩
    rcases flawed_or_head some_left with ⟨fault, flaw⟩ | ⟨message, tail, fit, whole⟩ |
      ⟨name, length, present, inRange, inRange', whole⟩
    · exact ⟨[], .flawed fault, .flawed flaw⟩
    · exact after_item fit whole
    by_cases short : present.length < length
    · exact ⟨[], .cut name length present, whole ▸ .cut inRange inRange' short⟩
    have content_length : (present.take length).length = length :=
      List.length_take_of_le (Nat.le_of_not_lt short)
    have fit : (RawItem.entry name (present.take length)).Fits := by
      refine ⟨inRange, ?_⟩
      rw [content_length]
      exact inRange'
    have cut : bytes = (RawItem.entry name (present.take length)).bytes ++ present.drop length := by
      rw [whole, RawItem.bytes, content_length, List.append_assoc, List.append_assoc,
        List.take_append_drop]
    exact after_item fit cut

namespace Itemized

/-- Items with nothing behind them make up a whole value. -/
theorem of_items {items : List RawItem} (fits : ∀ item ∈ items, item.Fits) :
    Itemized (RawItem.bytesOfAll items) items .clean := by
  induction items with
  | nil => exact .clean
  | cons item items ih =>
    obtain ⟨fit, others⟩ := List.forall_mem_cons.1 fits
    exact .item fit (ih others)

/-- The items of a value stand in front, and its remnant behind them. -/
theorem split {bytes : Bytes} {items : List RawItem} {remnant : Remnant}
    (h : Itemized bytes items remnant) : ∃ behind, (∀ item ∈ items, item.Fits) ∧
      bytes = RawItem.bytesOfAll items ++ behind ∧ Itemized behind [] remnant := by
  induction h with
  | clean => exact ⟨[], by simp, rfl, .clean⟩
  | cut inRange inRange' short => exact ⟨_, by simp, rfl, .cut inRange inRange' short⟩
  | flawed flaw => exact ⟨_, by simp, rfl, .flawed flaw⟩
  | @item item bytes items remnant fit others ih =>
    obtain ⟨behind, fits, rfl, last⟩ := ih
    refine ⟨behind, List.forall_mem_cons.2 ⟨fit, fits⟩, ?_, last⟩
    rw [RawItem.bytesOfAll_cons, List.append_assoc]

end Itemized

end ContainerLogs.Archive
