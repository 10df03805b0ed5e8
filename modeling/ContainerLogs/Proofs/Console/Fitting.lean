import ContainerLogs.Proofs.Console.Layout
import ContainerLogs.Proofs.Text.Cells

/-!
Which texts fit into their lines. If no character takes more cells than a line has, lines are broken so
that only blanks stand beyond the width, and cropping takes those. It may take more from texts with
joiners, emoji selectors and wide blanks.
-/
namespace ContainerLogs.Console.Layout

open Text (Steady cells cellCount cellWidth isBlank)

/-- A character that is laid out by its own cells. -/
structure Regular (width : Nat) (c : Char) : Prop where
  steady : Steady c
  narrow : cellWidth c ≤ width
  blank : isBlank c = true → cellWidth c ≤ 1

theorem Regular.of_one {width : Nat} (positive : 0 < width) {c : Char} (steady : Steady c)
    (one : cellWidth c = 1) : Regular width c :=
  ⟨steady, one ▸ positive, fun _ => one.le⟩

theorem Regular.of_all {width : Nat} (positive : 0 < width) {text : List Char}
    (narrow : (text.all fun c => Steady c ∧ cellWidth c = 1) = true) : ∀ c ∈ text, Regular width c := by
  intro c among
  obtain ⟨steady, one⟩ := of_decide_eq_true (List.all_eq_true.1 narrow c among)
  exact .of_one positive steady one

/-- A line of which all that is to be seen has room. -/
def Holds (width : Nat) (line : List Char) : Prop :=
  ∃ seen blanks, line = seen ++ blanks ∧ (∀ c ∈ blanks, isBlank c = true) ∧ cells seen ≤ width

variable {width : Nat} {text line word : List Char}

private theorem Holds.of_cells_le (room : cells line ≤ width) : Holds width line :=
  ⟨line, [], (List.append_nil line).symm, List.forall_mem_nil _, room⟩

private theorem Holds.of_prefix {front : List Char} (h : Holds width line)
    (before : front <+: line) :
    Holds width front := by
  obtain ⟨seen, blanks, rfl, blank, room⟩ := h
  obtain ⟨back, whole⟩ := before
  rcases List.append_eq_append_iff.1 whole with ⟨rest, rfl, -⟩ | ⟨cut, rfl, rfl⟩
  · rw [Text.cells_append] at room
    exact .of_cells_le (by omega)
  · exact ⟨seen, cut, rfl, fun c among => blank c (List.mem_append_left _ among), room⟩

private theorem Holds.append (room : cells line + visibleWidth word ≤ width)
    (steady : ∀ c ∈ word, Steady c) :
    Holds width (line ++ word) := by
  obtain ⟨seen, blanks, rfl, visible, -, blank⟩ := exists_blanks word
  refine ⟨line ++ seen, blanks, (List.append_assoc ..).symm, blank, ?_⟩
  rw [visible, Text.cellCount_eq_cells fun c among => steady c (List.mem_append_left _ among)] at room
  simpa using room

/-! ### Breaking -/

/-- No piece that a word is cut into is too wide, if no character is. -/
private theorem cells_le_of_mem_cut {column : Nat} {piece : List Char}
    {clusters : List Text.Cluster} (marked : ∀ cluster ∈ clusters, cluster.Marked)
    (narrow : ∀ cluster ∈ clusters, cluster.width ≤ width)
    (taken : cells piece.reverse = column) (room : column ≤ width) :
    ∀ part ∈ cut width column piece clusters, cells part ≤ width := by
  induction clusters generalizing column piece with
  | nil => simpa [cut, taken] using room
  | cons cluster clusters ih =>
    obtain ⟨first, others⟩ := List.forall_mem_cons.1 marked
    obtain ⟨fits, later⟩ := List.forall_mem_cons.1 narrow
    have own := first.cells_eq
    rw [cut]
    split
    · exact List.forall_mem_cons.2 ⟨taken ▸ room, ih others later (by simpa using own) fits⟩
    · exact ih others later (by simp [taken, own]) (by omega)

/-- A line under construction that knows its columns and has room for what is to be seen of it. -/
structure Line.Sound (width : Nat) (line : Line) : Prop where
  column : line.column = cells line.text
  holds : Holds width line.text

private theorem Line.Sound.ofWord (holds : Holds width word) (steady : ∀ c ∈ word, Steady c) :
    (Line.ofWord word).Sound width where
  column := (Text.cellCount_eq_cells steady).trans (congrArg cells (text_ofWord word).symm)
  holds := by rwa [text_ofWord]

private theorem Line.Sound.push {line : Line} (h : line.Sound width)
    (room : line.column + visibleWidth word ≤ width) (steady : ∀ c ∈ word, Steady c) :
    (line.push word).Sound width where
  column := by
    rw [text_push, Text.cells_append, ← h.column, ← Text.cellCount_eq_cells steady]
    rfl
  holds := by
    rw [text_push]
    exact .append (h.column ▸ room) steady

private theorem Placed.sound {before after : List Line} (h : Placed width word before after)
    (regular : ∀ c ∈ word, Regular width c) (sound : ∀ line ∈ before, line.Sound width) :
    ∀ line ∈ after, line.Sound width := by
  have steady : ∀ c ∈ word, Steady c := fun c among => (regular c among).steady
  cases h with
  | pushed room =>
    obtain ⟨last, done⟩ := List.forall_mem_cons.1 sound
    exact List.forall_mem_cons.2 ⟨last.push room steady, done⟩
  | apart narrow =>
    have holds : Holds width ([] ++ word) := .append (by simpa using narrow) steady
    exact List.forall_mem_cons.2 ⟨.ofWord holds steady, sound⟩
  | cut wide =>
    have marked := Text.marked_of_mem_clusters steady
    have whole := flatten_cut width 0 [] (Text.clusters word)
    rw [Text.flatMap_clusters] at whole
    have narrow : ∀ cluster ∈ Text.clusters word, cluster.width ≤ width := by
      intro cluster among
      obtain ⟨c, marks, chars, own, -⟩ := marked cluster among
      have inside : c ∈ (Text.clusters word).flatMap Text.Cluster.chars :=
        List.mem_flatMap.2 ⟨cluster, among, chars ▸ List.mem_cons_self⟩
      rw [Text.flatMap_clusters] at inside
      exact own ▸ (regular c inside).narrow
    have fit : ∀ part ∈ Layout.cut width 0 [] (Text.clusters word), cells part ≤ width :=
      cells_le_of_mem_cut marked narrow rfl (Nat.zero_le width)
    refine List.forall_mem_append.2 ⟨fun line among => ?_, sound⟩
    obtain ⟨piece, cut, rfl⟩ := List.mem_map.1 (List.mem_reverse.1 among)
    refine .ofWord (.of_cells_le (fit piece cut)) fun c inside => steady c ?_
    have within := List.mem_flatten.2 ⟨piece, cut, inside⟩
    rwa [whole] at within

private theorem sound_foldl_place {lines : List Line} {words : List (List Char)}
    (regular : ∀ word ∈ words, ∀ c ∈ word, Regular width c) (sound : ∀ line ∈ lines, line.Sound width) :
    ∀ line ∈ words.foldl (place width) lines, line.Sound width := by
  induction words generalizing lines with
  | nil => exact sound
  | cons word words ih =>
    obtain ⟨first, others⟩ := List.forall_mem_cons.1 regular
    exact ih others ((placed_place width lines word).sound first sound)

private theorem holds_of_mem_wrap (regular : ∀ c ∈ text, Regular width c) :
    ∀ line ∈ wrap width text, Holds width line := by
  have dropped {line : List Char} (holds : Holds width line) :
      Holds width (dropExcessBlanks width line) := holds.of_prefix (List.take_prefix _ line)
  unfold wrap
  refine List.forall_mem_map.2 ?_
  rcases flatten_words text with ⟨none_seen, blank⟩ | whole
  · rw [none_seen]
    refine List.forall_mem_singleton.2 (dropped ⟨[], text, rfl, blank, Nat.zero_le width⟩)
  · split
    · rename_i none_there
      rw [none_there] at whole
      refine List.forall_mem_singleton.2 (dropped ?_)
      exact .of_cells_le (whole ▸ Nat.zero_le width)
    · have inside : ∀ word ∈ words text, ∀ c ∈ word, Regular width c := by
        intro word among c within
        exact regular c (whole ▸ List.mem_flatten.2 ⟨word, among, within⟩)
      intro line among
      obtain ⟨made, placed, rfl⟩ := List.mem_map.1 among
      have sound := sound_foldl_place inside (List.forall_mem_nil _) made (List.mem_reverse.1 placed)
      exact dropped sound.holds

/-! ### Cropping -/

/-- What has room is not cropped; of blanks behind it, all that have room are kept. -/
private theorem stripped_fitting {seen blanks : List Char} {clusters : List Text.Cluster}
    (marked : ∀ cluster ∈ clusters, cluster.Marked)
    (whole : clusters.flatMap Text.Cluster.chars = seen ++ blanks)
    (blank : ∀ c ∈ blanks, isBlank c = true ∧ cellWidth c ≤ 1) (room : cells seen ≤ width) :
    Stripped (fitting width clusters) (seen ++ blanks) := by
  induction clusters generalizing width seen blanks with
  | nil => exact whole ▸ .refl []
  | cons cluster clusters ih =>
    obtain ⟨first, others⟩ := List.forall_mem_cons.1 marked
    have own := first.cells_eq
    obtain ⟨c, marks, chars, taken, -⟩ := first
    rw [List.flatMap_cons] at whole
    rw [fitting]
    split
    · rw [← whole]
      refine .append_left _ ?_
      rcases List.append_eq_append_iff.1 whole with ⟨back, rfl, later⟩ | ⟨front, parts, rfl⟩
      · rw [later]
        rw [Text.cells_append, own] at room
        exact ih others later blank (by omega)
      · have later : ∀ c ∈ clusters.flatMap Text.Cluster.chars, isBlank c = true ∧ cellWidth c ≤ 1 :=
          fun c among => blank c (List.mem_append_right _ among)
        rw [← List.nil_append (clusters.flatMap _)]
        exact ih others rfl later (Nat.zero_le _)
    · rename_i wide
      -- The cluster is too wide to be part of what is seen, so it starts with a blank.
      cases seen with
      | nil =>
        rw [chars, List.nil_append] at whole
        have narrow := (blank c (whole ▸ List.mem_cons_self)).2
        obtain rfl : width = 0 := by omega
        exact ⟨blanks, rfl, fun c among => (blank c among).1⟩
      | cons d seen =>
        rw [chars, List.cons_append, List.cons_append] at whole
        obtain ⟨rfl, -⟩ := List.cons.inj whole
        rw [Text.cells_cons] at room
        omega

private theorem stripped_crop (regular : ∀ c ∈ line, Regular width c) (holds : Holds width line) :
    Stripped (crop width line) line := by
  rw [crop]
  split
  · exact .refl line
  · obtain ⟨seen, blanks, rfl, blank, room⟩ := holds
    refine stripped_fitting (Text.marked_of_mem_clusters fun c among => (regular c among).steady)
      (Text.flatMap_clusters _) (fun c among => ⟨blank c among, ?_⟩) room
    exact (regular c (List.mem_append_right _ among)).blank (blank c among)

private theorem CutInto.mem {lines : List (List Char)} (h : CutInto text lines) :
    ∀ line ∈ lines, ∀ c ∈ line, c ∈ text := by
  obtain ⟨pieces, rfl, stripped⟩ := h
  induction stripped with
  | nil => exact List.forall_mem_nil _
  | cons here later ih =>
    obtain ⟨blanks, rfl, -⟩ := here
    refine List.forall_mem_cons.2 ⟨fun c inside => ?_, fun line among c inside => ?_⟩
    · exact List.mem_append_left _ (List.mem_append_left _ inside)
    · exact List.mem_append_right _ (ih line among c inside)

/-- A text fits that has regular characters only, if a blank does. -/
theorem fits_of_regular (positive : 0 < width) (regular : ∀ c ∈ text, Regular width c) :
    Fits width text := by
  have space : Regular width ' ' := .of_one positive (by decide) rfl
  intro line among
  obtain ⟨part, split, wrapped⟩ := List.mem_flatMap.1 among
  have expanded : ∀ c ∈ expandTabs part, Regular width c := by
    intro c inside
    rcases (spread_expandTabs part).mem c inside with rfl | ⟨own, -⟩
    · exact space
    · exact regular c ((Text.isInfix_of_mem_splitOn split).mem own)
  have kept := (cutInto_wrap width (expandTabs part)).mem line wrapped
  have holds := holds_of_mem_wrap expanded line wrapped
  exact stripped_crop (fun c inside => expanded c (kept c inside)) holds

end ContainerLogs.Console.Layout
