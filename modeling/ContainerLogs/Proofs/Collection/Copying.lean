import ContainerLogs.Collection.Snapshot
import Mathlib.Data.List.Basic

/-!
Copying from an open file while others write to it. What was counted is what was put aside, at most
as much as was wanted; every byte comes from its own place in what the file held when it was read,
and less than was wanted is there only if a read found that the file had ended.
-/
namespace ContainerLogs.Snapshot

/-- The reads give what the file holds at each of them. A read gives what stands from its place on,
at most as much as is asked for; it gives nothing of what is asked for only where the file ends. -/
structure Follows (reads : Reads) (contents : Nat → Bytes) : Prop where
  placed : ∀ {turn place demand bytes}, reads turn place demand = .ok bytes →
    bytes <+: (contents turn).drop place
  bounded : ∀ {turn place demand bytes}, reads turn place demand = .ok bytes →
    bytes.length ≤ demand
  ended : ∀ {turn place demand}, reads turn place demand = .ok [] → 0 < demand →
    (contents turn).length ≤ place

/-- Reads that are refused give nothing that could stand elsewhere. -/
theorem follows_refused (refusal : Refusal) (contents : Nat → Bytes) :
    Follows (fun _ _ _ => .error refusal) contents := by
  constructor <;> intros <;> contradiction

/-- Where something is wanted, nothing is given only where the content ends. -/
theorem length_le_of_take_drop_eq_nil {content : Bytes} {place demand : Nat}
    (nothing : (content.drop place).take demand = []) (wanted : 0 < demand) :
    content.length ≤ place := by
  rcases List.take_eq_nil_iff.1 nothing with none | none
  · omega
  · exact List.drop_eq_nil_iff.1 none

private theorem readAt_some_eq_ok {content : Bytes} {errno : Errno} {given place demand : Nat}
    {bytes : Bytes} : readAt content (some (errno, given)) place demand = .ok bytes ↔
      place < given ∧ (content.drop place).take (min demand (given - place)) = bytes := by
  simp only [readAt]
  split
  · rename_i failed
    simp [Nat.not_lt.2 failed]
  · rename_i goes
    simp [Nat.not_le.1 goes]

theorem follows_readAt (contents : Nat → Bytes) (failure : Option (Errno × Nat)) :
    Follows (fun turn => readAt (contents turn) failure) contents := by
  cases failure with
  | none =>
    constructor
    · rintro turn place demand bytes ⟨⟩
      exact List.take_prefix demand _
    · rintro turn place demand bytes ⟨⟩
      exact List.length_take_le demand _
    · intro turn place demand nothing wanted
      exact length_le_of_take_drop_eq_nil (Except.ok.inj nothing) wanted
  | some failure =>
    constructor
    · intro turn place demand bytes read
      obtain ⟨-, rfl⟩ := readAt_some_eq_ok.1 read
      exact List.take_prefix _ _
    · intro turn place demand bytes read
      obtain ⟨-, rfl⟩ := readAt_some_eq_ok.1 read
      exact Nat.le_trans (List.length_take_le _ _) (Nat.min_le_left _ _)
    · intro turn place demand read wanted
      obtain ⟨goes, nothing⟩ := readAt_some_eq_ok.1 read
      exact length_le_of_take_drop_eq_nil nothing (by omega)

/-- What was copied after a number of reads of a file. -/
structure Spooled (contents : Nat → Bytes) (limit turn : Nat) (spool : Spool) : Prop where
  counted : spool.count = spool.bytes.length
  within : spool.count ≤ limit
  placed : ∀ (place : Nat) (byte : UInt8), spool.bytes[place]? = some byte →
    ∃ earlier, earlier < turn ∧ (contents earlier)[place]? = some byte

/-- What was copied in the end: as much as was wanted, unless the last read gave nothing. -/
structure Copied (reads : Reads) (contents : Nat → Bytes) (limit turn : Nat) (spool : Spool) : Prop
    extends Spooled contents limit turn spool where
  ended : spool.count < limit →
    reads turn spool.count (min chunkBytes (limit - spool.count)) = .ok []

/-- Where a copy fails: there is something that it still wants, and the read for it fails. -/
structure Failed (reads : Reads) (contents : Nat → Bytes) (limit turn : Nat) (spool : Spool)
    (refusal : Refusal) : Prop extends Spooled contents limit turn spool where
  wanting : spool.count < limit
  failed : reads turn spool.count (min chunkBytes (limit - spool.count)) = .error refusal

variable {reads : Reads} {contents : Nat → Bytes} {limit turn : Nat} {spool : Spool}

theorem spooled_nil (contents : Nat → Bytes) (limit turn : Nat) :
    Spooled contents limit turn {} where
  counted := rfl
  within := Nat.zero_le limit
  placed place byte stands := by simp at stands

/-- One read goes on where the ones before it have come to. -/
private theorem Spooled.add (h : Spooled contents limit turn spool)
    (follows : Follows reads contents) {chunk : Bytes}
    (read : reads turn spool.count (min chunkBytes (limit - spool.count)) = .ok chunk) :
    Spooled contents limit (turn + 1) (spool.add chunk) where
  counted := by simp [Spool.add, h.counted]
  within := by
    have bounded := follows.bounded read
    have within := h.within
    simp only [Spool.add]
    omega
  placed place byte stands := by
    by_cases old : place < spool.bytes.length
    · rw [Spool.add, List.getElem?_append_left old] at stands
      obtain ⟨earlier, before, found⟩ := h.placed place byte stands
      exact ⟨earlier, Nat.lt_succ_of_lt before, found⟩
    · have beyond : spool.bytes.length ≤ place := Nat.le_of_not_lt old
      rw [Spool.add, List.getElem?_append_right beyond] at stands
      refine ⟨turn, Nat.lt_succ_self turn, ?_⟩
      obtain ⟨there, same⟩ := List.getElem?_eq_some_iff.1 stands
      have found := List.prefix_iff_getElem?.1 (follows.placed read) _ there
      rw [same, List.getElem?_drop, h.counted, Nat.add_sub_cancel' beyond] at found
      exact found

/-- The reads go on until enough is there, one of them gives nothing or one of them fails. -/
private theorem copied_of_copyOn (follows : Follows reads contents)
    (h : Spooled contents limit turn spool) :
    (∀ last, (copyOn reads limit turn spool).2 = .ok last →
      ∃ turns, Copied reads contents limit turns last) ∧
    ∀ refusal, (copyOn reads limit turn spool).2 = .error refusal →
      ∃ turns last, Failed reads contents limit turns last refusal := by
  induction turn, spool using copyOn.induct reads limit with
  | case1 turn spool more refusal read =>
    rw [copyOn, if_pos more, read]
    constructor
    · rintro last ⟨⟩
    · rintro refusal ⟨⟩
      exact ⟨turn, spool, h, more, read⟩
  | case2 turn spool more read =>
    rw [copyOn, if_pos more, read]
    constructor
    · rintro last ⟨⟩
      exact ⟨turn, h, fun _ => read⟩
    · rintro refusal ⟨⟩
  | case3 turn spool more byte bytes read ih =>
    rw [copyOn, if_pos more, read]
    exact ih (h.add follows read)
  | case4 turn spool enough =>
    rw [copyOn, if_neg enough]
    constructor
    · rintro last ⟨⟩
      exact ⟨turn, h, fun short => absurd short enough⟩
    · rintro refusal ⟨⟩

theorem copied_of_copy (follows : Follows reads contents) (copied : (copy reads limit).2 = .ok spool) :
    ∃ turns, Copied reads contents limit turns spool :=
  (copied_of_copyOn follows (spooled_nil contents limit 0)).1 spool copied

theorem failed_of_copy {refusal : Refusal} (follows : Follows reads contents)
    (failed : (copy reads limit).2 = .error refusal) :
    ∃ turns last, Failed reads contents limit turns last refusal :=
  (copied_of_copyOn follows (spooled_nil contents limit 0)).2 refusal failed

/-- Less than was wanted is there only if the file had ended by the last read. -/
theorem Copied.complete (h : Copied reads contents limit turn spool)
    (follows : Follows reads contents) (short : spool.count < limit) :
    (contents turn).length ≤ spool.count := by
  have positive : 0 < chunkBytes := by decide
  exact follows.ended (h.ended short) (by omega)

section Grown

variable (grown : ∀ turn, contents turn <+: contents (turn + 1))
include grown

theorem prefix_of_grown {earlier later : Nat} (order : earlier ≤ later) :
    contents earlier <+: contents later := by
  induction order with
  | refl => exact List.prefix_refl _
  | step _ ih => exact ih.trans (grown _)

/-- As long as others only write behind the end of a file, what was copied is a front of it. -/
private theorem Spooled.prefix_of_grown (h : Spooled contents limit turn spool) :
    spool.bytes <+: contents turn := by
  rw [List.prefix_iff_getElem?]
  intro place inside
  obtain ⟨earlier, before, found⟩ := h.placed place _ (List.getElem?_eq_getElem inside)
  obtain ⟨there, same⟩ := List.getElem?_eq_some_iff.1 found
  rw [← same]
  have front := Snapshot.prefix_of_grown grown (Nat.le_of_lt before)
  exact List.prefix_iff_getElem?.1 front place there

/-- As long as others only write behind the end of a file, the copy is the front of what the file
holds at the last read, as far as is wanted. -/
theorem Copied.eq_take_of_grown (h : Copied reads contents limit turn spool)
    (follows : Follows reads contents) : spool.bytes = (contents turn).take limit := by
  have front := h.prefix_of_grown grown
  have within := h.within
  have counted := h.counted
  have complete := h.complete follows
  have shorter := front.length_le
  rw [List.prefix_iff_eq_take.1 front]
  by_cases short : spool.count < limit
  · have ended := complete short
    rw [List.take_of_length_le (by omega), List.take_of_length_le (by omega)]
  · congr 1
    omega

end Grown

/-- How far a copy may come before its reads fail. -/
def reach (limit : Nat) : Option (Errno × Nat) → Nat
  | none => limit
  | some (_, given) => min limit given

/-- What a copy comes to of a file that holds one thing after another, from some read on and with
some bytes copied: how many reads there are in the end, and what is copied or why it fails. A read
asks for no more than 65536 bytes, and none is made once there are as many as wanted. -/
inductive Copies (contents : Nat → Bytes) (failure : Option (Errno × Nat)) (limit : Nat) :
    Nat → Bytes → Nat → Except Refusal Bytes → Prop where
  | enough {turn : Nat} {copied : Bytes} (filled : limit ≤ copied.length) :
      Copies contents failure limit turn copied turn (.ok copied)
  | failed {turn : Nat} {copied : Bytes} {errno : Errno} {given : Nat}
      (wanting : copied.length < limit) (fails : failure = some (errno, given))
      (passed : given ≤ copied.length) :
      Copies contents failure limit turn copied (turn + 1) (.error (.bare errno))
  | ended {turn : Nat} {copied : Bytes} (wanting : copied.length < reach limit failure)
      (nothing : (contents turn).length ≤ copied.length) :
      Copies contents failure limit turn copied (turn + 1) (.ok copied)
  | read {turn last : Nat} {copied : Bytes} {result : Except Refusal Bytes}
      (wanting : copied.length < reach limit failure)
      (something : copied.length < (contents turn).length)
      (rest : Copies contents failure limit (turn + 1)
        (copied ++ ((contents turn).drop copied.length).take
          (min 65536 (reach limit failure - copied.length))) last result) :
      Copies contents failure limit turn copied last result

section Reads

variable {failure : Option (Errno × Nat)} {copied : Bytes}

private theorem lt_limit_of_lt_reach {place : Nat} (wanting : place < reach limit failure) :
    place < limit := by
  cases failure with
  | none => exact wanting
  | some failure => exact Nat.lt_of_lt_of_le wanting (Nat.min_le_left _ _)

/-- Short of the place where reads fail, a read gives what stands next, as much as is wanted of it. -/
private theorem readAt_of_lt_reach {content : Bytes} {place : Nat}
    (wanting : place < reach limit failure) :
    readAt content failure place (min chunkBytes (limit - place)) =
      .ok ((content.drop place).take (min 65536 (reach limit failure - place))) := by
  cases failure with
  | none => rfl
  | some failure =>
    obtain ⟨errno, given⟩ := failure
    simp only [reach] at wanting
    have goes : ¬ given ≤ place := by omega
    have most : min (min chunkBytes (limit - place)) (given - place) =
        min 65536 (min limit given - place) := by
      simp only [chunkBytes]
      omega
    simp only [readAt, if_neg goes, most, reach]

private theorem passed_of_not_lt_reach {place : Nat} (wanting : place < limit)
    (barred : ¬ place < reach limit failure) :
    ∃ errno given, failure = some (errno, given) ∧ given ≤ place := by
  cases failure with
  | none => exact absurd wanting barred
  | some failure =>
    simp only [reach] at barred
    exact ⟨failure.1, failure.2, rfl, by omega⟩

/-- The bytes that a read gives, where there are any. -/
private theorem exists_cons_of_read {content : Bytes} {place most : Nat}
    (something : place < content.length) (positive : 0 < most) :
    ∃ byte bytes, (content.drop place).take most = byte :: bytes := by
  have nonempty : (content.drop place).take most ≠ [] := by
    intro nothing
    have ended := length_le_of_take_drop_eq_nil nothing positive
    omega
  exact List.exists_cons_of_ne_nil nonempty

/-- A copy comes to what it is told to come to. -/
private theorem copyOn_of_copies {last : Nat} {result : Except Refusal Bytes}
    (h : Copies contents failure limit turn copied last result) :
    copyOn (fun turn => readAt (contents turn) failure) limit turn ⟨copied.length, copied⟩ =
      (last, result.map fun bytes => ⟨bytes.length, bytes⟩) := by
  induction h with
  | enough filled =>
    rw [copyOn, if_neg (Nat.not_lt.2 filled)]
    rfl
  | @failed turn copied errno given wanting fails passed =>
    rw [copyOn, if_pos wanting, fails]
    simp only [readAt, if_pos passed]
    rfl
  | @ended turn copied wanting nothing =>
    rw [copyOn, if_pos (lt_limit_of_lt_reach wanting), readAt_of_lt_reach wanting,
      List.drop_eq_nil_of_le nothing, List.take_nil]
    rfl
  | @read turn last copied result wanting something rest ih =>
    have positive : 0 < min 65536 (reach limit failure - copied.length) := by omega
    obtain ⟨byte, bytes, chunk⟩ := exists_cons_of_read something positive
    rw [chunk] at ih
    rw [copyOn, if_pos (lt_limit_of_lt_reach wanting), readAt_of_lt_reach wanting, chunk]
    rw [List.length_append] at ih
    exact ih

/-- There is something that a copy comes to. -/
private theorem exists_copies (contents : Nat → Bytes) (failure : Option (Errno × Nat))
    (limit turn : Nat) (copied : Bytes) :
    ∃ last result, Copies contents failure limit turn copied last result := by
  -- By induction on what is still wanted, of which each read that gives something leaves less.
  induction lacking : limit - copied.length using Nat.strongRecOn generalizing turn copied with
  | ind missing ih =>
    by_cases filled : limit ≤ copied.length
    · exact ⟨_, _, .enough filled⟩
    by_cases wanting : copied.length < reach limit failure
    · by_cases nothing : (contents turn).length ≤ copied.length
      · exact ⟨_, _, .ended wanting nothing⟩
      · have something := Nat.lt_of_not_le nothing
        have positive : 0 < min 65536 (reach limit failure - copied.length) := by omega
        obtain ⟨byte, bytes, chunk⟩ := exists_cons_of_read something positive
        have less : limit - (copied ++ byte :: bytes).length < missing := by
          rw [← lacking, List.length_append, List.length_cons]
          omega
        obtain ⟨last, result, rest⟩ := ih _ less (turn + 1) _ rfl
        rw [← chunk] at rest
        exact ⟨last, result, .read wanting something rest⟩
    · obtain ⟨errno, given, fails, passed⟩ :=
        passed_of_not_lt_reach (Nat.lt_of_not_le filled) wanting
      exact ⟨_, _, .failed (Nat.lt_of_not_le filled) fails passed⟩

theorem copy_of_copies {last : Nat} {result : Except Refusal Bytes}
    (h : Copies contents failure limit 0 [] last result) :
    copy (fun turn => readAt (contents turn) failure) limit =
      (last, result.map fun bytes => ⟨bytes.length, bytes⟩) :=
  copyOn_of_copies h

theorem copies_copy (contents : Nat → Bytes) (failure : Option (Errno × Nat)) (limit : Nat) :
    Copies contents failure limit 0 []
      (copy (fun turn => readAt (contents turn) failure) limit).1
      ((copy (fun turn => readAt (contents turn) failure) limit).2.map (·.bytes)) := by
  obtain ⟨last, result, copies⟩ := exists_copies contents failure limit 0 []
  rw [copy_of_copies copies]
  cases result <;> exact copies

private theorem Spooled.later {later : Nat} (h : Spooled contents limit turn spool)
    (order : turn ≤ later) :
    Spooled contents limit later spool where
  counted := h.counted
  within := h.within
  placed place byte stands := by
    obtain ⟨earlier, before, found⟩ := h.placed place byte stands
    exact ⟨earlier, Nat.lt_of_lt_of_le before order, found⟩

/-- What a copy comes to was read in its place, in one of the reads that were made. -/
theorem Copies.spooled {last : Nat} {result : Except Refusal Bytes} {bytes : Bytes}
    (h : Copies contents failure limit turn copied last result)
    (start : Spooled contents limit turn ⟨copied.length, copied⟩) (whole : result = .ok bytes) :
    Spooled contents limit last ⟨bytes.length, bytes⟩ := by
  induction h with
  | enough filled =>
    cases whole
    exact start
  | failed wanting fails passed => cases whole
  | ended wanting nothing =>
    cases whole
    exact start.later (Nat.le_succ _)
  | @read turn last copied result wanting something rest ih =>
    have next := start.add (follows_readAt contents failure) (readAt_of_lt_reach wanting)
    rw [Spool.add, ← List.length_append] at next
    exact ih next whole

end Reads

end ContainerLogs.Snapshot
