import ContainerLogs.Archive.Rendering
import ContainerLogs.Proofs.Archive.ValueGrammar
import ContainerLogs.Proofs.Wire.Feed

/-!
The readable form of a value. Whatever feed brings the bytes of a value, and however it cuts them,
each item is shown as itself: a content under its name and length, decoded as a whole, a diagnostic
on a line of its own. Nothing in a content, nor in a message, is taken for the start of another item.
Bytes that are no sequence of items are shown up to the first place where no whole item stands, and
found corrupt there.
-/
namespace ContainerLogs

namespace ReadFault

/-- A fault without regard to where a read that came too short began: only how much was lacking. -/
def essence : ReadFault → ReadFault
  | streamEnded wanted given => streamEnded (wanted - given) 0
  | fault => fault

private theorem isCorrupt_of_essence {fault other : ReadFault}
    (same : fault.essence = other.essence) :
    fault.isCorrupt = other.isCorrupt := by
  have kept (fault : ReadFault) : fault.essence.isCorrupt = fault.isCorrupt := by
    cases fault <;> rfl
  rw [← kept fault, same, kept other]

end ReadFault

namespace Archive

open Feed (Prompt Willing)
open Running

namespace Item

/-- An item as it is shown. -/
def text : Item → String
  | entry name content =>
      "\n\nLogType:" ++ name ++ "\nLogLength:" ++ Text.decimal content.length ++
        "\nLog Contents:\n" ++ Text.Utf8.decodeLenient content
  | diagnostic message => "\n" ++ message ++ "\n"

end Item

namespace RawItem

/-- An item as it is shown, with U+FFFD for what is no text. -/
def text : RawItem → String
  | entry name content =>
      "\n\nLogType:" ++ Text.Utf8.decodeLenient name ++ "\nLogLength:" ++
        Text.decimal content.length ++ "\nLog Contents:\n" ++ Text.Utf8.decodeLenient content
  | diagnostic message => "\n" ++ Text.Utf8.decodeLenient message ++ "\n"

private theorem text_entry (name content : Bytes) : text (.entry name content) =
    Head.heading (Text.Utf8.decodeLenient name) content.length ++ Text.Utf8.decodeLenient content :=
  rfl

private theorem text_diagnostic (message : Bytes) :
    text (.diagnostic message) = "\n" ++ Text.Utf8.decodeLenient message ++ "\n" :=
  rfl

end RawItem

namespace Item

private theorem text_raw (item : Item) : item.raw.text = item.text := by
  cases item with
  | entry name content =>
    rw [raw, RawItem.text_entry, Text.Utf8.decodeLenient_encode]
    rfl
  | diagnostic message =>
    rw [raw, RawItem.text_diagnostic, Text.Utf8.decodeLenient_encode]
    rfl

end Item

/-- The front of a content that is made of whole pieces. -/
def wholePieces (content : Bytes) : Bytes := content.take (content.length / pieceBytes * pieceBytes)

private theorem wholePieces_of_lt {content : Bytes} (short : content.length < pieceBytes) :
    wholePieces content = [] := by
  rw [wholePieces, Nat.div_eq_of_lt short, Nat.zero_mul, List.take_zero]

private theorem wholePieces_of_le {content : Bytes} (enough : pieceBytes ≤ content.length) :
    wholePieces content = content.take pieceBytes ++ wholePieces (content.drop pieceBytes) := by
  have positive : 0 < pieceBytes := by decide
  have count : content.length / pieceBytes * pieceBytes =
      pieceBytes + (content.length - pieceBytes) / pieceBytes * pieceBytes := by
    rw [Nat.div_eq_sub_div positive enough, Nat.succ_mul, Nat.add_comm]
  rw [wholePieces, count, List.take_add, wholePieces, List.length_drop]

private theorem wholePieces_append (content : Bytes) :
    ∃ others, wholePieces content ++ others = content :=
  ⟨_, List.take_append_drop _ content⟩

namespace Remnant

/-- What is shown of a remnant: of a content that is cut short, its heading and the text of its whole
pieces. -/
def text : Remnant → String
  | clean | flawed _ => ""
  | cut name length present =>
      Head.heading (Text.Utf8.decodeLenient name) length ++
        String.ofList ((Text.Utf8.yielded .start (wholePieces present)).map Text.Utf8.shown)

def fault? : Remnant → Option ReadFault
  | clean => none
  | cut _ length present =>
      some (.streamEnded (min pieceBytes (length - (wholePieces present).length))
        (present.length - (wholePieces present).length))
  | flawed fault => some fault

end Remnant

variable {σ : Type} [Feed σ] {kind : σ → Prop}

namespace Head

variable {feed between : σ} {tail : Bytes}

/-- Behind its length, the name of an entry and the length of its content are read. -/
private theorem read?_of_length {length : Nat}
    (first : Feed.readIntOrEnd feed = .ok (some (length : Int)) between) :
    read? feed = (do
      let name := Text.Utf8.decodeLenient (← Feed.readExact length)
      match ← Feed.readLong with
      | .ofNat length => pure (some (.entry name length))
      | length => throw (.negativeContent length name) : Reading σ (Option Head)) between := by
  have unmarked : (length : Int) ≠ Item.diagnosticMark := by
    simp only [Item.diagnosticMark]
    omega
  unfold read?
  rw [bind_of_ok first]
  exact congrFun (if_neg unmarked) between

/-- Behind the mark of a diagnostic, its message is read. -/
private theorem read?_of_mark
    (first : Feed.readIntOrEnd feed = .ok (some Item.diagnosticMark) between) :
    read? feed = (do
      let length ← Feed.readLength "message"
      let message ← Feed.readExact length
      pure (some (.diagnostic (Text.Utf8.decodeLenient message))) : Reading σ (Option Head))
        between := by
  unfold read?
  rw [bind_of_ok first]
  simp only [if_true]

private theorem read?_of_name (willing : Willing kind) (here : kind feed) {name : Bytes}
    (inRange : Wire.fits Wire.intWidth name.length = true)
    (h : Feed.left feed = Wire.counted name ++ tail) : ∃ between,
    Feed.left between = tail ∧ kind between ∧ read? feed = (do
      match ← Feed.readLong with
      | .ofNat length => pure (some (.entry (Text.Utf8.decodeLenient name) length))
      | length => throw (.negativeContent length (Text.Utf8.decodeLenient name)) :
        Reading σ (Option Head)) between := by
  rw [Wire.counted, List.append_assoc] at h
  obtain ⟨counted, first, named⟩ := Feed.readIntOrEnd_of_left inRange h
  obtain ⟨between, read, remains⟩ := Feed.readExact_of_left named
  have there := willing.of_readExact (willing.of_readIntOrEnd here first) read
  refine ⟨between, remains, there, ?_⟩
  rw [read?_of_length first, bind_of_ok read]

private theorem read?_of_heading (willing : Willing kind) (here : kind feed) {name : Bytes}
    {length : Nat} (inRange : Wire.fits Wire.intWidth name.length = true)
    (inRange' : Wire.fits Wire.longWidth length = true)
    (h : Feed.left feed = Wire.counted name ++ (Wire.long length ++ tail)) : ∃ rest,
    read? feed = .ok (some (.entry (Text.Utf8.decodeLenient name) length)) rest ∧
      Feed.left rest = tail ∧ kind rest := by
  obtain ⟨between, measured, there, read⟩ := read?_of_name willing here inRange h
  obtain ⟨rest, long, remains⟩ := Feed.readLong_of_left inRange' measured
  refine ⟨rest, ?_, remains, willing.of_readLong there long⟩
  rw [read, bind_of_ok long]
  rfl

private theorem read?_of_diagnostic (willing : Willing kind) (here : kind feed) {message : Bytes}
    (fit : (RawItem.diagnostic message).Fits)
    (h : Feed.left feed = (RawItem.diagnostic message).bytes ++ tail) : ∃ rest,
    read? feed = .ok (some (.diagnostic (Text.Utf8.decodeLenient message))) rest ∧
      Feed.left rest = tail ∧ kind rest := by
  simp only [RawItem.bytes, Wire.counted, List.append_assoc] at h
  obtain ⟨marked, first, counted⟩ := Feed.readIntOrEnd_of_left (by decide) h
  obtain ⟨known, length, text⟩ := Feed.readLength_of_left "message" fit counted
  obtain ⟨rest, read, remains⟩ := Feed.readExact_of_left text
  have there := willing.of_readExact
    (willing.of_readLength (willing.of_readIntOrEnd here first) length) read
  refine ⟨rest, ?_, remains, there⟩
  rw [read?_of_mark first, bind_of_ok length, bind_of_ok read]
  rfl

private theorem read?_at_end (willing : Willing kind) (here : kind feed)
    (nothing : Feed.left feed = []) :
    ∃ rest, read? feed = .ok none rest ∧ Feed.left rest = [] ∧ kind rest := by
  obtain ⟨rest, ended, remains, there⟩ := willing.readIntOrEnd_at_end here nothing
  exact ⟨rest, bind_of_ok ended _, remains, there⟩

/-- Where the grammar finds no item, reading its head fails, and tells of the flaw. -/
private theorem read?_of_flawed (willing : Willing kind) (here : kind feed) {bytes : Bytes}
    {fault : ReadFault} (flaw : Flawed bytes fault) (h : Feed.left feed = bytes) : ∃ found rest,
    read? feed = .error found rest ∧ found.essence = fault.essence ∧ kind rest ∧
      (Prompt kind → found = fault) := by
  cases flaw with
  | shortStart some_left short =>
    subst h
    obtain ⟨piece, between, pulled, nonempty⟩ :=
      Feed.pull_progress (show 0 < Wire.intWidth by decide) some_left
    obtain ⟨rest, failed, -, there⟩ :=
      Feed.readIntOrEnd_of_short willing here pulled nonempty short
    have pieces := congrArg List.length (Feed.left_of_pull pulled)
    rw [List.length_append] at pieces
    refine ⟨_, rest, bind_of_error failed _, ?_, there, ?_⟩
    · simp only [ReadFault.essence, ReadFault.streamEnded.injEq, and_true]
      omega
    · -- The first piece of a prompt feed is all that it has.
      intro prompt
      obtain ⟨_, all, -⟩ := prompt feed Wire.intWidth here (by decide)
      rw [pulled] at all
      cases all
      rw [List.length_take] at pieces ⊢
      rw [ReadFault.streamEnded.injEq]
      omega
  | @negativeName n tail inRange negative unmarked =>
    obtain ⟨rest, first, -⟩ := Feed.readIntOrEnd_of_left inRange h
    obtain ⟨n, rfl⟩ := Int.eq_negSucc_of_lt_zero negative
    refine ⟨_, rest, ?_, rfl, willing.of_readIntOrEnd here first, fun _ => rfl⟩
    unfold read?
    rw [bind_of_ok first]
    simp only [if_neg unmarked]
    rfl
  | @shortName length tail inRange short =>
    obtain ⟨between, first, named⟩ := Feed.readIntOrEnd_of_left inRange h
    rw [← named] at short ⊢
    obtain ⟨rest, failed, -, there⟩ :=
      Feed.readExact_of_short willing (willing.of_readIntOrEnd here first) short
    refine ⟨_, rest, ?_, rfl, there, fun _ => rfl⟩
    rw [read?_of_length first]
    exact bind_of_error failed _
  | @shortContentLength name tail inRange short =>
    obtain ⟨between, measured, there, read⟩ := read?_of_name willing here inRange h
    rw [← measured] at short ⊢
    obtain ⟨rest, failed, -, there'⟩ := Feed.readLong_of_short willing there short
    refine ⟨_, rest, ?_, rfl, there', fun _ => rfl⟩
    rw [read]
    exact bind_of_error failed _
  | @negativeContent name n tail inRange inRange' negative =>
    obtain ⟨between, measured, there, read⟩ := read?_of_name willing here inRange h
    obtain ⟨rest, long, -⟩ := Feed.readLong_of_left inRange' measured
    obtain ⟨n, rfl⟩ := Int.eq_negSucc_of_lt_zero negative
    refine ⟨_, rest, ?_, rfl, willing.of_readLong there long, fun _ => rfl⟩
    rw [read, bind_of_ok long]
    rfl
  | @shortMessageLength tail short =>
    obtain ⟨between, first, counted⟩ := Feed.readIntOrEnd_of_left (by decide) h
    rw [← counted] at short ⊢
    obtain ⟨rest, failed, -, there⟩ :=
      Feed.readExact_of_short willing (willing.of_readIntOrEnd here first) short
    refine ⟨_, rest, ?_, rfl, there, fun _ => rfl⟩
    rw [read?_of_mark first]
    exact bind_of_error (bind_of_error (bind_of_error failed _) _) _
  | @negativeMessage n tail inRange negative =>
    obtain ⟨between, first, counted⟩ := Feed.readIntOrEnd_of_left (by decide) h
    obtain ⟨rest, integer, -⟩ := Feed.readInt_of_left inRange counted
    obtain ⟨n, rfl⟩ := Int.eq_negSucc_of_lt_zero negative
    have there := willing.of_readInt (willing.of_readIntOrEnd here first) integer
    refine ⟨_, rest, ?_, rfl, there, fun _ => rfl⟩
    rw [read?_of_mark first]
    exact bind_of_error (bind_of_ok integer _) _
  | @shortMessage length tail inRange short =>
    obtain ⟨between, first, counted⟩ := Feed.readIntOrEnd_of_left (by decide) h
    obtain ⟨known, lengthRead, text⟩ := Feed.readLength_of_left "message" inRange counted
    rw [← text] at short ⊢
    obtain ⟨rest, failed, -, there⟩ := Feed.readExact_of_short willing
      (willing.of_readLength (willing.of_readIntOrEnd here first) lengthRead) short
    refine ⟨_, rest, ?_, rfl, there, fun _ => rfl⟩
    rw [read?_of_mark first, bind_of_ok lengthRead]
    exact bind_of_error failed _

end Head

/-- A content that is copied in pieces is decoded as a whole: the decoder's state goes over the cuts.
-/
theorem copyText_of_left (willing : Willing kind) {feed : σ} (here : kind feed)
    {content tail : Bytes} (state : Text.Utf8.State) (out : String)
    (h : Feed.left feed = content ++ tail) :
    ∃ rest, copyText content.length state out feed =
        ⟨out ++ String.ofList ((Text.Utf8.remaining state content).map Text.Utf8.shown), none, rest⟩ ∧
      Feed.left rest = tail ∧ kind rest := by
  induction count : content.length using Nat.strongRecOn generalizing content state out feed with
  | ind count ih =>
    subst count
    rw [copyText]
    by_cases finished : content = []
    · subst finished
      exact ⟨feed, rfl, h, here⟩
    · have some_left : 0 < content.length := List.length_pos_iff.2 finished
      have positive : 0 < pieceBytes := by decide
      have whole := List.take_append_drop pieceBytes content
      have front : min pieceBytes content.length = (content.take pieceBytes).length :=
        List.length_take.symm
      have back : content.length - (content.take pieceBytes).length =
          (content.drop pieceBytes).length := by
        rw [List.length_take, List.length_drop]
        omega
      have shorter : (content.drop pieceBytes).length < content.length := by
        rw [List.length_drop]
        omega
      have split : Feed.left feed = content.take pieceBytes ++ (content.drop pieceBytes ++ tail) := by
        rw [h, ← List.append_assoc, whole]
      obtain ⟨between, read, remains⟩ := Feed.readExact_of_left split
      obtain ⟨rest, copied, ended, there⟩ :=
        ih _ shorter (willing.of_readExact here read)
          (Text.Utf8.feed (content.take pieceBytes) state []).1
          (out ++ String.ofList ((Text.Utf8.feed (content.take pieceBytes) state []).2.reverse.map
            Text.Utf8.shown)) remains rfl
      refine ⟨rest, ?_, ended, there⟩
      rw [if_neg (Nat.ne_of_gt some_left), front, read]
      simp only [back, copied]
      conv_rhs => rw [← whole, Text.Utf8.remaining_append]
      rw [List.map_append, String.ofList_append, String.append_assoc]

theorem render_eq (out : String) (feed : σ) :
    render out feed =
      match Head.read? feed with
      | .error fault rest => ⟨out, some fault, rest⟩
      | .ok none rest => ⟨out, none, rest⟩
      | .ok (some (.diagnostic message)) rest => render (out ++ "\n" ++ message ++ "\n") rest
      | .ok (some (.entry name length)) rest =>
          if (copyText length .start (out ++ Head.heading name length) rest).fault = none then
            render (copyText length .start (out ++ Head.heading name length) rest).out
              (copyText length .start (out ++ Head.heading name length) rest).feed
          else copyText length .start (out ++ Head.heading name length) rest := by
  conv_lhs => rw [render]
  split <;> rename_i read <;> simp only [read]
  split <;> rfl

theorem append_after (out a b c d : String) : out ++ a ++ b ++ c ++ d = out ++ (a ++ b ++ c ++ d) := by
  simp only [String.append_assoc]

/-- Of a content that is cut short, the whole pieces are shown. -/
private theorem copyText_of_short (willing : Willing kind) {feed : σ} (here : kind feed)
    {length : Nat} {present : Bytes} (state : Text.Utf8.State) (out : String)
    (short : present.length < length) (h : Feed.left feed = present) : ∃ rest,
    copyText length state out feed =
      ⟨out ++ String.ofList ((Text.Utf8.yielded state (wholePieces present)).map Text.Utf8.shown),
        some (.streamEnded (min pieceBytes (length - (wholePieces present).length))
          (present.length - (wholePieces present).length)), rest⟩ ∧ kind rest := by
  induction count : present.length using Nat.strongRecOn generalizing present length state out feed with
  | ind count ih =>
    subst count
    have positive : 0 < pieceBytes := by decide
    rw [copyText, if_neg (by omega)]
    by_cases enough : pieceBytes ≤ present.length
    · -- A whole piece is there, and the content is cut short behind it.
      have piece_length : (present.take pieceBytes).length = pieceBytes :=
        List.length_take_of_le enough
      have wanted : min pieceBytes length = (present.take pieceBytes).length := by omega
      have rest_length : (present.drop pieceBytes).length = present.length - pieceBytes :=
        List.length_drop
      have shorter : (present.drop pieceBytes).length < length - pieceBytes := by omega
      have split : Feed.left feed = present.take pieceBytes ++ present.drop pieceBytes := by
        rw [h, List.take_append_drop]
      obtain ⟨between, read, remains⟩ := Feed.readExact_of_left split
      obtain ⟨rest, copied, there⟩ :=
        ih _ (by omega) (willing.of_readExact here read)
          (Text.Utf8.feed (present.take pieceBytes) state []).1
          (out ++ String.ofList ((Text.Utf8.feed (present.take pieceBytes) state []).2.reverse.map
            Text.Utf8.shown)) shorter remains rfl
      refine ⟨rest, ?_, there⟩
      rw [wanted, read]
      simp only [piece_length, copied]
      rw [wholePieces_of_le enough, Text.Utf8.yielded_append, List.map_append, String.ofList_append,
        List.length_append, piece_length, rest_length, Nat.sub_sub, Nat.sub_sub, String.append_assoc]
      rfl
    · have short' : (Feed.left feed).length < min pieceBytes length := by
        rw [h]
        omega
      obtain ⟨rest, failed, -, there⟩ := Feed.readExact_of_short willing here short'
      refine ⟨rest, ?_, there⟩
      rw [failed, h, wholePieces_of_lt (Nat.lt_of_not_le enough)]
      simp

/-- Items are shown one after the other, and what is behind them as far as it can be. -/
private theorem render_itemized (willing : Willing kind) {feed : σ} (here : kind feed)
    {bytes : Bytes} {items : List RawItem} {remnant : Remnant}
    (itemized : Itemized bytes items remnant) (out : String) (h : Feed.left feed = bytes) :
    ∃ fault rest, render out feed =
      ⟨out ++ String.join (items.map RawItem.text) ++ remnant.text, fault, rest⟩ ∧
      fault.map ReadFault.essence = remnant.fault?.map ReadFault.essence ∧
      (remnant = .clean → Feed.left rest = []) ∧ kind rest ∧ (Prompt kind → fault = remnant.fault?) := by
  induction itemized generalizing feed out with
  | clean =>
    obtain ⟨rest, ended, remains, there⟩ := Head.read?_at_end willing here h
    refine ⟨none, rest, ?_, rfl, fun _ => remains, there, fun _ => rfl⟩
    rw [render_eq, ended]
    simp [Remnant.text]
  | @cut name length present inRange inRange' short =>
    obtain ⟨between, read, remains, there⟩ := Head.read?_of_heading willing here inRange inRange' h
    obtain ⟨rest, copied, there'⟩ := copyText_of_short willing there .start
      (out ++ Head.heading (Text.Utf8.decodeLenient name) length) short remains
    refine ⟨_, rest, ?_, rfl, nofun, there', fun _ => rfl⟩
    rw [render_eq, read]
    simp only [copied]
    rw [if_neg (by simp), Remnant.text, List.map_nil, String.join_nil, String.append_empty,
      String.append_assoc]
    rfl
  | flawed flaw =>
    obtain ⟨fault, rest, failed, same, there, exact⟩ := Head.read?_of_flawed willing here flaw h
    refine ⟨some fault, rest, ?_, congrArg some same, nofun, there, ?_⟩
    · rw [render_eq, failed]
      simp [Remnant.text]
    · intro prompt
      exact congrArg some (exact prompt)
  | @item item bytes items remnant fit others ih =>
    cases item with
    | diagnostic message =>
      obtain ⟨between, read, remains, there⟩ := Head.read?_of_diagnostic willing here fit h
      obtain ⟨fault, rest, rendered, same, finished, there', exact⟩ :=
        ih there (out ++ "\n" ++ Text.Utf8.decodeLenient message ++ "\n") remains
      refine ⟨fault, rest, ?_, same, finished, there', exact⟩
      rw [render_eq, read]
      change render (out ++ "\n" ++ Text.Utf8.decodeLenient message ++ "\n") between = _
      rw [rendered, List.map_cons, String.join_cons, RawItem.text_diagnostic]
      simp only [String.append_assoc]
    | entry name content =>
      rw [RawItem.bytes, List.append_assoc, List.append_assoc] at h
      obtain ⟨between, read, remains, there⟩ :=
        Head.read?_of_heading willing here fit.1 fit.2 h
      obtain ⟨behind, copied, remains', there'⟩ := copyText_of_left willing there .start
        (out ++ Head.heading (Text.Utf8.decodeLenient name) content.length) remains
      obtain ⟨fault, rest, rendered, same, finished, there'', exact⟩ := ih there' _ remains'
      refine ⟨fault, rest, ?_, same, finished, there'', exact⟩
      rw [render_eq, read]
      simp only [copied, if_true]
      rw [rendered, ← Text.Utf8.decodeLenient_eq, List.map_cons, String.join_cons,
        RawItem.text_entry]
      simp only [String.append_assoc]

theorem render_of_itemized (willing : Willing kind) {feed : σ} (here : kind feed) {bytes : Bytes}
    {items : List RawItem} {remnant : Remnant} (itemized : Itemized bytes items remnant)
    (out : String) (h : Feed.left feed = bytes) : ∃ fault rest,
    render out feed =
      ⟨out ++ String.join (items.map RawItem.text) ++ remnant.text, fault, rest⟩ ∧
      fault.map ReadFault.essence = remnant.fault?.map ReadFault.essence ∧
      (remnant = .clean → Feed.left rest = []) ∧ kind rest := by
  obtain ⟨fault, rest, rendered, same, finished, there, -⟩ :=
    render_itemized willing here itemized out h
  exact ⟨fault, rest, rendered, same, finished, there⟩

/-- Items of texts are shown by those. -/
theorem render_of_items (willing : Willing kind) {feed : σ} (here : kind feed) {items : List Item}
    (fits : ∀ item ∈ items, item.Fits) (out : String)
    (h : Feed.left feed = Item.bytesOfAll items) :
    ∃ rest, render out feed = ⟨out ++ String.join (items.map Item.text), none, rest⟩ ∧
      Feed.left rest = [] ∧ kind rest := by
  have itemized := Itemized.of_items (Item.forall_fits_raw fits)
  rw [Item.bytesOfAll_raw] at itemized
  obtain ⟨fault, rest, rendered, same, finished, there⟩ :=
    render_of_itemized willing here itemized out h
  obtain rfl : fault = none := Option.map_eq_none_iff.1 same
  refine ⟨rest, ?_, finished rfl, there⟩
  rw [rendered, List.map_map]
  have texts : RawItem.text ∘ Item.raw = Item.text := funext Item.text_raw
  simp [texts, Remnant.text]

/-- Where the grammar finds a flaw, no whole item stands. -/
private theorem Flawed.no_item {bytes tail : Bytes} {fault : ReadFault} {item : RawItem}
    (flaw : Flawed bytes fault) (fit : item.Fits) : bytes ≠ item.bytes ++ tail := by
  intro whole
  have willing : Willing fun _ : Bytes => True := fun _ _ _ _ => ⟨_, _, rfl, trivial⟩
  obtain ⟨found, rest, failed, -⟩ :=
    Head.read?_of_flawed willing trivial flaw (show Feed.left bytes = bytes from rfl)
  cases item with
  | entry name content =>
    rw [RawItem.bytes, List.append_assoc, List.append_assoc] at whole
    obtain ⟨after, read, -⟩ :=
      Head.read?_of_heading willing trivial fit.1 fit.2 (show Feed.left bytes = _ from whole)
    rw [failed] at read
    cases read
  | diagnostic message =>
    obtain ⟨after, read, -⟩ :=
      Head.read?_of_diagnostic willing trivial fit (show Feed.left bytes = _ from whole)
    rw [failed] at read
    cases read

/-- Behind the whole items of a value there is no other. -/
private theorem Itemized.no_item {bytes tail : Bytes} {remnant : Remnant} {item : RawItem}
    (h : Itemized bytes [] remnant) (fit : item.Fits) : bytes ≠ item.bytes ++ tail := by
  intro whole
  cases h with
  | clean => exact item.bytes_ne_nil (List.append_eq_nil_iff.1 whole.symm).1
  | flawed flaw => exact flaw.no_item fit whole
  | @cut name length present inRange inRange' short =>
    cases item with
    | entry name' content =>
      rw [RawItem.bytes, List.append_assoc, List.append_assoc] at whole
      obtain ⟨-, sized⟩ := Wire.counted_append_inj inRange fit.1 whole
      obtain ⟨lengths, rfl⟩ := Wire.long_append_inj inRange' fit.2 sized
      have enough : content.length ≤ (content ++ tail).length := by simp
      omega
    | diagnostic message =>
      simp only [RawItem.bytes, Wire.counted, List.append_assoc] at whole
      have marked := (Wire.int_append_inj inRange (by decide) whole).1
      exact absurd marked (RawItem.length_ne_mark name)

/-- Behind whole items nothing is shown, or the heading of an entry that is cut short and a front of
the text of what is there of its content. -/
def ShownOfRest (behind : Bytes) (shown : String) : Prop :=
  shown = "" ∨ ∃ (name : Bytes) (length : Nat) (present : Bytes) (front back : String),
    Wire.fits Wire.intWidth name.length = true ∧ Wire.fits Wire.longWidth length = true ∧
      behind = Wire.counted name ++ (Wire.long length ++ present) ∧ present.length < length ∧
      Text.Utf8.decodeLenient present = front ++ back ∧
      shown = Head.heading (Text.Utf8.decodeLenient name) length ++ front

private theorem Itemized.shownOfRest {bytes : Bytes} {remnant : Remnant}
    (h : Itemized bytes [] remnant) :
    ShownOfRest bytes remnant.text := by
  cases h with
  | clean => exact .inl rfl
  | flawed => exact .inl rfl
  | @cut name length present inRange inRange' short =>
    obtain ⟨others, whole⟩ := wholePieces_append present
    have front := Text.Utf8.decodeLenient_append (wholePieces present) others
    rw [whole] at front
    exact .inr ⟨name, length, present, _, _, inRange, inRange', rfl, short, front, rfl⟩

private theorem Itemized.isCorrupt {bytes : Bytes} {items : List RawItem} {remnant : Remnant}
    {fault : ReadFault} (h : Itemized bytes items remnant) (told : remnant.fault? = some fault) :
    fault.isCorrupt = true := by
  induction h with
  | clean => cases told
  | cut => cases told; rfl
  | flawed flaw => cases told; cases flaw <;> rfl
  | item fit others ih => exact ih told

/-- Whatever feed gives the bytes of a value at once, what is shown of it is what is shown of the
bytes. -/
theorem render_of_prompt (prompt : Prompt kind) {feed : σ} (here : kind feed) {bytes : Bytes}
    (h : Feed.left feed = bytes) (out : String) : ∃ rest,
    render out feed = ⟨out ++ (render "" bytes).out, (render "" bytes).fault, rest⟩ ∧ kind rest := by
  obtain ⟨items, remnant, itemized⟩ := exists_itemized bytes
  obtain ⟨fault, rest, rendered, -, -, there, told⟩ :=
    render_itemized prompt.willing here itemized out h
  obtain ⟨fault', rest', rendered', -, -, -, told'⟩ :=
    render_itemized Prompt.bytes.willing trivial itemized "" rfl
  refine ⟨rest, ?_, there⟩
  rw [rendered, rendered', told prompt, told' Prompt.bytes, String.empty_append,
    String.append_assoc]

/-- Bytes that come at once are shown by their items and their remnant. -/
theorem render_of_bytes {bytes : Bytes} {items : List RawItem} {remnant : Remnant}
    (itemized : Itemized bytes items remnant) :
    (render "" bytes).fault = remnant.fault? ∧
      (render "" bytes).out = String.join (items.map RawItem.text) ++ remnant.text := by
  obtain ⟨fault, rest, rendered, -, -, -, told⟩ :=
    render_itemized Prompt.bytes.willing trivial itemized "" rfl
  rw [rendered, told Prompt.bytes, String.empty_append]
  exact ⟨rfl, rfl⟩

theorem render_isCorrupt {bytes : Bytes} {fault : ReadFault}
    (failed : (render "" bytes).fault = some fault) : fault.isCorrupt = true := by
  obtain ⟨items, remnant, itemized⟩ := exists_itemized bytes
  rw [(render_of_bytes itemized).1] at failed
  exact itemized.isCorrupt failed

/-- A value is rendered without a fault just if it is a sequence of whole items, and then each of
them is shown, with its name, its message or its whole content decoded leniently. Otherwise the bytes
are found corrupt, behind the items that are whole and at most a heading and a front of the content
that is cut short. None of this depends on how the bytes come, but for where the count of the missing
bytes starts. -/
theorem render_follows_grammar (willing : Willing kind) {feed : σ} (here : kind feed)
    (out : String) :
    ((render out feed).fault = none ↔ ∃ items : List RawItem,
      (∀ item ∈ items, item.Fits) ∧ Feed.left feed = RawItem.bytesOfAll items) ∧
    (∀ items : List RawItem, (∀ item ∈ items, item.Fits) →
      Feed.left feed = RawItem.bytesOfAll items →
      (render out feed).out = out ++ String.join (items.map RawItem.text)) ∧
    (∀ fault, (render out feed).fault = some fault → fault.isCorrupt = true ∧
      ∃ (items : List RawItem) (behind : Bytes) (shown : String), (∀ item ∈ items, item.Fits) ∧
        Feed.left feed = RawItem.bytesOfAll items ++ behind ∧
        (∀ (item : RawItem) (tail : Bytes), item.Fits → behind ≠ item.bytes ++ tail) ∧
        ShownOfRest behind shown ∧
        (render out feed).out = out ++ String.join (items.map RawItem.text) ++ shown) ∧
    ∀ {τ : Type} [Feed τ] {kind' : τ → Prop}, Willing kind' → ∀ other : τ, kind' other →
      Feed.left other = Feed.left feed →
      (render out other).out = (render out feed).out ∧
        (render out other).fault.map ReadFault.essence =
          (render out feed).fault.map ReadFault.essence := by
  have of_items {items : List RawItem} (fits : ∀ item ∈ items, item.Fits)
      (h : Feed.left feed = RawItem.bytesOfAll items) : (render out feed).fault = none ∧
        (render out feed).out = out ++ String.join (items.map RawItem.text) := by
    obtain ⟨fault, rest, rendered, same, -⟩ :=
      render_of_itemized willing here (Itemized.of_items fits) out h
    rw [rendered]
    constructor
    · exact Option.map_eq_none_iff.1 same
    · simp [Remnant.text]
  obtain ⟨items, remnant, itemized⟩ := exists_itemized (Feed.left feed)
  obtain ⟨fault?, rest, rendered, same, -⟩ := render_of_itemized willing here itemized out rfl
  obtain ⟨behind, fits, whole, last⟩ := itemized.split
  have faults : (render out feed).fault = fault? := by rw [rendered]
  have outs : (render out feed).out =
      out ++ String.join (items.map RawItem.text) ++ remnant.text := by rw [rendered]
  refine ⟨⟨?_, ?_⟩, ?_, ?_, ?_⟩
  · intro complete
    refine ⟨items, fits, ?_⟩
    rw [faults] at complete
    subst complete
    cases last with
    | clean => simpa using whole
    | cut => cases same
    | flawed => cases same
  · rintro ⟨items, fits, h⟩
    exact (of_items fits h).1
  · intro items fits h
    exact (of_items fits h).2
  · intro fault found
    rw [faults] at found
    subst found
    constructor
    · obtain ⟨told, known, alike⟩ := Option.map_eq_some_iff.1 same.symm
      rw [← ReadFault.isCorrupt_of_essence alike]
      exact itemized.isCorrupt known
    · exact ⟨items, behind, remnant.text, fits, whole, fun item tail fit => last.no_item fit,
        last.shownOfRest, outs⟩
  · intro τ _ kind' willing' other there same_bytes
    obtain ⟨fault', rest', rendered', same', -⟩ :=
      render_of_itemized willing' there itemized out same_bytes
    rw [rendered', rendered]
    exact ⟨rfl, same'.trans same.symm⟩

/-- An entry whose name is no text and whose content looks like a diagnostic, then a diagnostic, all
read byte by byte; and the same value without its last byte, read byte by byte or at once. -/
theorem rendered_byte_by_byte :
    let items : List RawItem :=
      [.entry [255] (RawItem.diagnostic [104, 105]).bytes, .diagnostic [110, 111]]
    let whole : PiecewiseBytes := ⟨RawItem.bytesOfAll items, fun _ => some 0, 0⟩
    let torn : PiecewiseBytes := ⟨(RawItem.bytesOfAll items).dropLast, fun _ => some 0, 0⟩
    (render "" whole).fault = none ∧
      (render "" whole).out =
        "\n\nLogType:\uFFFD\nLogLength:10\nLog Contents:\n\uFFFD\uFFFD\uFFFD\uFFFD\x00\x00\x00\x02hi\nno\n" ∧
      (render "" (torn.rest)).out = (render "" torn).out := by
  intro items whole torn
  have whole_rendered := @render_follows_grammar _ _ _ PiecewiseBytes.willing whole trivial ""
  have torn_rendered := @render_follows_grammar _ _ _ PiecewiseBytes.willing torn trivial ""
  refine ⟨?_, ?_, ?_⟩
  · exact whole_rendered.1.2 ⟨items, by decide, rfl⟩
  · rw [whole_rendered.2.1 items (by decide) rfl]
    decide
  · have at_once : Willing fun _ : Bytes => True := fun _ _ _ _ => ⟨_, _, rfl, trivial⟩
    exact (torn_rendered.2.2.2 at_once torn.rest trivial rfl).1

end Archive

end ContainerLogs
