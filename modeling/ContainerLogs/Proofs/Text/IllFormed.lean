import ContainerLogs.Proofs.Text.Sequence

/-!
What lenient decoding makes of any bytes. They are read from the front: a character where the octets of
one stand, and else one hole for the longest part that begins a sequence, or for a single octet if not
even that begins one. There is just one such reading, and the octet machine yields it, wherever the
bytes are cut into pieces.
-/
namespace ContainerLogs.Text.Utf8

/-- The octets that sequences begin with. -/
def Begins (part : Bytes) : Prop := ∃ c, part <+: encodeChar c

/-- The part that one hole stands for, with the bytes behind it. -/
structure IllFormedPart (part behind : Bytes) : Prop where
  nonempty : part ≠ []
  noCharacter : ∀ c, ¬ encodeChar c <+: part ++ behind
  begins : Begins part ∨ part.length = 1
  longest : ∀ longer, longer <+: part ++ behind → (Begins longer ∨ longer.length = 1) →
    longer.length ≤ part.length

/-- What bytes are read as. -/
inductive Reads : Bytes → List Decoded → Prop where
  | nil : Reads [] []
  | character {c : Char} {behind : Bytes} {units : List Decoded} (others : Reads behind units) :
      Reads (encodeChar c ++ behind) (some c :: units)
  | hole {part behind : Bytes} {units : List Decoded} (illFormed : IllFormedPart part behind)
      (others : Reads behind units) : Reads (part ++ behind) (none :: units)

private theorem remaining_encodeChar (c : Char) (behind : Bytes) :
    remaining .start (encodeChar c ++ behind) = some c :: remaining .start behind := by
  rw [remaining_append, feed_encodeChar]
  rfl

/-- What stands in front of a sequence begins it without a hole. -/
private theorem none_not_mem_of_begins {part : Bytes} (begins : Begins part) :
    none ∉ yielded .start part := by
  obtain ⟨c, back, whole⟩ := begins
  have units : yielded .start part ++ yielded (feed part .start []).1 back = [some c] := by
    rw [← yielded_append, whole, yielded, feed_encodeChar]
    rfl
  intro hole
  have among := List.mem_append_left (yielded (feed part .start []).1 back) hole
  rw [units] at among
  simp at among

/-- A sequence that is under way can be completed. -/
private theorem exists_completion {value lacking low high : Nat}
    (sound : State.Sound (.pending value lacking low high)) :
    ∃ more c, remaining (.pending value lacking low high) more = [some c] := by
  induction lacking generalizing value low high with
  | zero => exact absurd sound.1 (by decide)
  | succ lacking ih =>
    obtain ⟨-, least, range, most⟩ := sound
    have octet : (UInt8.ofNat low).toNat = low := toNat_ofNat_of_lt (by omega)
    have within : low ≤ (UInt8.ofNat low).toNat ∧ (UInt8.ofNat low).toNat ≤ high := by omega
    by_cases last : lacking = 0
    · refine ⟨[UInt8.ofNat low], Char.ofNat (value * 0x40 + (UInt8.ofNat low).toNat % 0x40), ?_⟩
      rw [remaining_cons, step, if_pos within]
      simp only [last, Nat.zero_add, Nat.le_refl, if_true]
      rfl
    · have next : State.Sound
          (.pending (value * 0x40 + (UInt8.ofNat low).toNat % 0x40) lacking 0x80 0xBF) :=
        ⟨by omega, by omega, by omega, by omega⟩
      obtain ⟨more, c, done⟩ := ih next
      refine ⟨UInt8.ofNat low :: more, c, ?_⟩
      rw [remaining_cons, step, if_pos within]
      simp only
      rw [if_neg (by omega)]
      exact done

/-- What leaves the machine waiting for more, with nothing yielded, begins a sequence. -/
private theorem begins_of_waiting {part : Bytes} {value lacking low high : Nat}
    (waiting : feed part .start [] = (.pending value lacking low high, [])) : Begins part := by
  obtain ⟨more, c, completed⟩ := exists_completion (sound_of_waiting waiting)
  have whole : remaining .start (part ++ more) = [c].map some := by
    rw [remaining_append, waiting]
    exact completed
  refine ⟨c, more, ?_⟩
  rw [eq_encodeChars_of_remaining whole]
  simp [encodeChars]

/-- A part is ill-formed if the first that is yielded where it stands is a hole, which comes of the
octet behind it at the latest. -/
private theorem illFormedPart_of_hole {part behind : Bytes} (nonempty : part ≠ [])
    (begins : Begins part ∨ part.length = 1)
    (first : (remaining .start (part ++ behind)).head? = some none)
    (ends : ∀ octet ∈ behind.head?, none ∈ yielded .start (part ++ [octet])) :
    IllFormedPart part behind := by
  refine ⟨nonempty, ?_, begins, ?_⟩
  · rintro c ⟨others, whole⟩
    rw [← whole, remaining_encodeChar] at first
    cases first
  · intro longer front kind
    refine Decidable.byContradiction fun beyond => ?_
    rcases kind with begins | single
    · obtain ⟨extra, rfl⟩ : part <+: longer :=
        List.prefix_of_prefix_length_le (List.prefix_append part behind) front (by omega)
      have further : extra ≠ [] := by
        rintro rfl
        simp at beyond
      obtain ⟨octet, extra, rfl⟩ := List.exists_cons_of_ne_nil further
      obtain ⟨rest, rfl⟩ := (List.prefix_append_right_inj part).1 front
      refine none_not_mem_of_begins begins ?_
      rw [← List.singleton_append, ← List.append_assoc, yielded_append]
      exact List.mem_append_left _ (ends octet rfl)
    · have := List.length_pos_iff.2 nonempty
      omega

/-- Where a sequence that is under way cannot go on, it is an ill-formed part. -/
private theorem illFormedPart_of_waiting {part behind : Bytes} {value lacking low high : Nat}
    (nonempty : part ≠ []) (waiting : feed part .start [] = (.pending value lacking low high, []))
    (stuck : ∀ octet ∈ behind.head?, ¬ (low ≤ octet.toNat ∧ octet.toNat ≤ high)) :
    IllFormedPart part behind := by
  refine illFormedPart_of_hole nonempty (.inl (begins_of_waiting waiting)) ?_ ?_
  · rw [remaining_append, waiting]
    cases behind with
    | nil => rfl
    | cons octet behind =>
      rw [remaining_cons, step, if_neg (stuck octet rfl)]
      rfl
  · intro octet next
    rw [yielded_append, waiting]
    simp [yielded, feed_cons, step, if_neg (stuck octet next)]

/-- Bytes are read from within a sequence if all that come behind it are. -/
private theorem reads_of_waiting {part bytes : Bytes} {value lacking low high : Nat}
    (nonempty : part ≠ []) (waiting : feed part .start [] = (.pending value lacking low high, []))
    (others : ∀ rest, rest <:+ bytes → Reads rest (remaining .start rest)) :
    Reads (part ++ bytes) (remaining .start (part ++ bytes)) := by
  induction bytes generalizing part value lacking low high with
  | nil =>
    have whole : remaining .start (part ++ []) = none :: remaining .start [] := by
      rw [remaining_append, waiting]
      rfl
    rw [whole]
    exact .hole (illFormedPart_of_waiting nonempty waiting nofun) .nil
  | cons octet bytes ih =>
    have behind (rest : Bytes) (suffix : rest <:+ bytes) : Reads rest (remaining .start rest) :=
      others rest (suffix.trans (List.suffix_cons octet bytes))
    by_cases within : low ≤ octet.toNat ∧ octet.toNat ≤ high
    · have joined : part ++ octet :: bytes = part ++ [octet] ++ bytes := by simp
      by_cases last : lacking ≤ 1
      · have whole : remaining .start (part ++ [octet]) =
            [Char.ofNat (value * 0x40 + octet.toNat % 0x40)].map some := by
          rw [remaining_append, waiting, remaining_cons, step, if_pos within]
          simp only
          rw [if_pos last]
          rfl
        have character := eq_encodeChars_of_remaining whole
        rw [joined, character, encodeChars, List.flatMap_singleton, remaining_encodeChar]
        exact .character (behind bytes List.suffix_rfl)
      · have waiting' : feed (part ++ [octet]) .start [] =
            (.pending (value * 0x40 + octet.toNat % 0x40) (lacking - 1) 0x80 0xBF, []) := by
          rw [feed_append, waiting, feed_cons, step, if_pos within]
          simp only
          rw [if_neg last]
          rfl
        rw [joined]
        exact ih (by simp) waiting' behind
    · have stuck : ∀ next ∈ (octet :: bytes).head?, ¬ (low ≤ next.toNat ∧ next.toNat ≤ high) := by
        rintro next ⟨⟩
        exact within
      have whole : remaining .start (part ++ octet :: bytes) =
          none :: remaining .start (octet :: bytes) := by
        rw [remaining_append, waiting, remaining_cons, step, if_neg within, remaining_cons, step]
        rfl
      rw [whole]
      exact .hole (illFormedPart_of_waiting nonempty waiting stuck) (others _ List.suffix_rfl)

/-- The machine reads all bytes. -/
private theorem reads_remaining (bytes : Bytes) : Reads bytes (remaining .start bytes) := by
  induction count : bytes.length using Nat.strongRecOn generalizing bytes with
  | ind count ih =>
    subst count
    cases bytes with
    | nil => exact .nil
    | cons octet bytes =>
      have behind (rest : Bytes) (suffix : rest <:+ bytes) : Reads rest (remaining .start rest) :=
        ih rest.length (Nat.lt_succ_of_le suffix.length_le) rest rfl
      have led := lead_cases octet.toNat
      have fed : feed [octet] .start [] =
          ((lead octet.toNat).1, (lead octet.toNat).2.reverse) := by
        rw [feed_cons, step, feed_nil, List.reverseAux_eq, List.append_nil]
      have whole : remaining .start (octet :: bytes) =
          (lead octet.toNat).2 ++ remaining (lead octet.toNat).1 bytes := remaining_cons ..
      generalize lead octet.toNat = result at led fed whole
      cases led with
      | illFormed =>
        have part : IllFormedPart [octet] bytes := by
          refine illFormedPart_of_hole (List.cons_ne_nil _ _) (.inr rfl) ?_ fun next _ => ?_
          · rw [List.singleton_append, whole]
            rfl
          · rw [yielded_append, yielded, fed]
            exact List.mem_append_left _ List.mem_cons_self
        rw [whole]
        exact .hole part (behind bytes List.suffix_rfl)
      | one small =>
        have same := encodeChar_one small
        rw [whole, ← List.singleton_append, ← same]
        exact .character (behind bytes List.suffix_rfl)
      | two => exact reads_of_waiting (List.cons_ne_nil octet []) fed behind
      | three => exact reads_of_waiting (List.cons_ne_nil octet []) fed behind
      | four => exact reads_of_waiting (List.cons_ne_nil octet []) fed behind

private theorem IllFormedPart.unique {part behind part' behind' : Bytes}
    (h : IllFormedPart part behind) (h' : IllFormedPart part' behind')
    (same : part ++ behind = part' ++ behind') :
    part = part' ∧ behind = behind' := by
  have notLonger := h'.longest part (same ▸ List.prefix_append part behind) h.begins
  have notShorter := h.longest part' (same.symm ▸ List.prefix_append part' behind') h'.begins
  exact List.append_inj same (Nat.le_antisymm notLonger notShorter)

/-- Bytes are read in one way only. -/
private theorem Reads.unique {bytes : Bytes} {units others : List Decoded} (h : Reads bytes units)
    (h' : Reads bytes others) : units = others := by
  induction h generalizing others with
  | nil =>
    generalize same : [] = bytes at h'
    cases h' with
    | nil => rfl
    | @character c behind _ _ =>
      have size := congrArg List.length same
      rw [List.length_append, length_encodeChar, List.length_nil] at size
      have := c.utf8Size_pos
      omega
    | hole illFormed _ => exact absurd (List.append_eq_nil_iff.1 same.symm).1 illFormed.nonempty
  | @character c behind units _ ih =>
    generalize same : encodeChar c ++ behind = bytes at h'
    cases h' with
    | nil =>
      have decoded := remaining_encodeChar c behind
      rw [same] at decoded
      cases decoded
    | @character c' behind' units' rest =>
      have decoded := remaining_encodeChar c behind
      rw [same, remaining_encodeChar] at decoded
      obtain ⟨first, -⟩ := List.cons.inj decoded
      cases first
      rw [ih (List.append_cancel_left same ▸ rest)]
    | hole illFormed _ => exact absurd ⟨behind, same⟩ (illFormed.noCharacter c)
  | @hole part behind units illFormed _ ih =>
    generalize same : part ++ behind = bytes at h'
    cases h' with
    | nil => exact absurd (List.append_eq_nil_iff.1 same).1 illFormed.nonempty
    | @character c' behind' _ _ => exact absurd ⟨behind', same.symm⟩ (illFormed.noCharacter c')
    | hole illFormed' rest =>
      obtain ⟨-, rfl⟩ := illFormed.unique illFormed' same
      rw [ih rest]

theorem reads_iff {bytes : Bytes} {units : List Decoded} :
    Reads bytes units ↔ units = remaining .start bytes := by
  constructor
  · exact fun h => h.unique (reads_remaining bytes)
  · rintro rfl
    exact reads_remaining bytes

/-- What pieces show one after another, with the state carried over from each to the next, and what
the end of the last one leaves. -/
def shownInPieces (state : State) : List Bytes → String
  | [] => String.ofList ((finish state).map shown)
  | piece :: pieces =>
      let (state, units) := feed piece state []
      String.ofList (units.reverse.map shown) ++ shownInPieces state pieces

/-- Where bytes are cut makes no difference to what they show. -/
theorem shownInPieces_eq (state : State) (pieces : List Bytes) :
    shownInPieces state pieces = String.ofList ((remaining state pieces.flatten).map shown) := by
  induction pieces generalizing state with
  | nil => rfl
  | cons piece pieces ih =>
    rw [shownInPieces, List.flatten_cons, remaining_append, List.map_append, String.ofList_append,
      ← ih]

end ContainerLogs.Text.Utf8
