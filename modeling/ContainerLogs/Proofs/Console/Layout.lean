import ContainerLogs.Console.Layout
import ContainerLogs.Proofs.Path
import Mathlib.Data.List.Forall2
import Mathlib.Data.List.TakeWhile

/-!
How a text is laid out in lines. Tabs become blanks, and lines are broken between words or within words
that are too wide; blanks may go lost where a line is broken, and nothing else does, unless cropping
takes more off a line.
-/
namespace ContainerLogs.Console.Layout

open Text (cellCount isBlank)

/-- A text with spaces in place of its tabs. -/
inductive Spread : (text spread : List Char) → Prop where
  | nil : Spread [] []
  | keep {c : Char} {text spread : List Char} (other : c ≠ '\t') (others : Spread text spread) :
      Spread (c :: text) (c :: spread)
  | tab {text spread : List Char} (more : Nat) (others : Spread text spread) :
      Spread ('\t' :: text) (List.replicate (more + 1) ' ' ++ spread)

/-- A text with line ends put into it, each of which may stand in place of blanks. -/
inductive Broken : (text broken : List Char) → Prop where
  | nil : Broken [] []
  | keep {c : Char} {text broken : List Char} (others : Broken text broken) :
      Broken (c :: text) (c :: broken)
  | lineEnd {blanks text broken : List Char} (blank : ∀ c ∈ blanks, isBlank c = true)
      (others : Broken text broken) : Broken (blanks ++ text) ('\n' :: broken)

/-- A text as it is wrapped into lines: its characters are the same in the same order, but for tabs and
for blanks at the ends of lines. -/
def Wrapped (text wrapped : List Char) : Prop := ∃ spread, Spread text spread ∧ Broken spread wrapped

/-- A text on lines of its own. -/
def written (lines : List (List Char)) : List Char := lines.flatMap (· ++ ['\n'])

private theorem Spread.refl {text : List Char} (absent : '\t' ∉ text) : Spread text text := by
  induction text with
  | nil => exact .nil
  | cons c text ih =>
    obtain ⟨other, absent⟩ := not_or.1 (mt List.mem_cons.2 absent)
    exact .keep (Ne.symm other) (ih absent)

private theorem Spread.append {text spread text' spread' : List Char} (h : Spread text spread)
    (h' : Spread text' spread') : Spread (text ++ text') (spread ++ spread') := by
  induction h with
  | nil => exact h'
  | keep other _ ih => exact .keep other ih
  | tab more _ ih =>
    rw [List.append_assoc]
    exact .tab more ih

theorem Spread.mem {text spread : List Char} (h : Spread text spread) :
    ∀ c ∈ spread, c = ' ' ∨ (c ∈ text ∧ c ≠ '\t') := by
  induction h with
  | nil => nofun
  | @keep d _ _ other _ ih =>
    rintro c (_ | ⟨_, among⟩)
    · exact .inr ⟨List.mem_cons_self, other⟩
    · exact (ih c among).imp_right fun kept => ⟨List.mem_cons_of_mem _ kept.1, kept.2⟩
  | tab more _ ih =>
    intro c among
    rcases List.mem_append.1 among with blank | among
    · exact .inl (List.eq_of_mem_replicate blank)
    · exact (ih c among).imp_right fun kept => ⟨List.mem_cons_of_mem _ kept.1, kept.2⟩

private theorem Broken.refl (text : List Char) : Broken text text := by
  induction text with
  | nil => exact .nil
  | cons c text ih => exact .keep ih

private theorem Broken.append {text broken text' broken' : List Char} (h : Broken text broken)
    (h' : Broken text' broken') : Broken (text ++ text') (broken ++ broken') := by
  induction h with
  | nil => exact h'
  | keep _ ih => exact .keep ih
  | lineEnd blank _ ih =>
    rw [List.append_assoc]
    exact .lineEnd blank ih

/-- The characters of a text that are to be seen. -/
def visible (text : List Char) : List Char := text.filter (¬ isBlank ·)

private theorem visible_of_blank {blanks : List Char} (blank : ∀ c ∈ blanks, isBlank c = true) :
    visible blanks = [] :=
  List.filter_eq_nil_iff.2 fun c among => by simp [blank c among]

private theorem Spread.visible_eq {text spread : List Char} (h : Spread text spread) :
    visible spread = visible text := by
  induction h with
  | nil => rfl
  | keep _ _ ih =>
    simp only [visible, List.filter_cons] at ih ⊢
    rw [ih]
  | tab more _ ih =>
    have blank : ∀ c ∈ List.replicate (more + 1) ' ', isBlank c = true := by
      intro c among
      rw [List.eq_of_mem_replicate among]
      rfl
    rw [visible, List.filter_append]
    exact (congrArg₂ _ (visible_of_blank blank) ih).trans (by rfl)

private theorem Broken.visible_eq {text broken : List Char} (h : Broken text broken) :
    visible broken = visible text := by
  induction h with
  | nil => rfl
  | keep _ ih =>
    simp only [visible, List.filter_cons] at ih ⊢
    rw [ih]
  | lineEnd blank _ ih =>
    rw [visible, visible, List.filter_append]
    exact ih.trans (congrArg (· ++ _) (visible_of_blank blank)).symm

/-- The characters that are to be seen are the same in a text and in its lines. -/
theorem Wrapped.visible_eq {text wrapped : List Char} (h : Wrapped text wrapped) :
    visible wrapped = visible text := by
  obtain ⟨spread, spreads, broken⟩ := h
  exact broken.visible_eq.trans spreads.visible_eq

/-! ### Tabs -/

private theorem spread_joinAtTabs (column : Nat) {parts : List (List Char)} (hasParts : parts ≠ [])
    (absent : ∀ part ∈ parts, '\t' ∉ part) :
    Spread (['\t'].intercalate parts) (joinAtTabs column parts) := by
  induction parts generalizing column with
  | nil => exact absurd rfl hasParts
  | cons part others ih =>
    obtain ⟨here, there⟩ := List.forall_mem_cons.1 absent
    cases others with
    | nil => simpa [joinAtTabs] using Spread.refl here
    | cons next others =>
      rw [List.intercalate_cons_of_ne_nil (List.cons_ne_nil _ _), joinAtTabs, List.append_assoc,
        List.append_assoc, List.append_assoc]
      · refine (Spread.refl here).append ?_
        rw [← List.append_assoc [' ']]
        exact .tab _ (ih _ (List.cons_ne_nil _ _) there)
      · nofun

theorem spread_expandTabs (text : List Char) : Spread text (expandTabs text) := by
  have spread := spread_joinAtTabs 0 (List.splitOn_ne_nil '\t' text) fun part among =>
    Text.not_mem_of_mem_splitOn among
  rwa [List.intercalate_splitOn] at spread

/-! ### Words -/

/-- The words under way and to come make up the text. -/
private theorem flatten_wordsAfter_visible (word text : List Char) :
    (wordsAfter word true text).flatten = word.reverse ++ text := by
  induction text generalizing word with
  | nil => simp [wordsAfter]
  | cons c rest ih =>
    rw [wordsAfter]
    split
    · simp [ih]
    · split
      · simp [ih]
      · simp [ih]

/-- A text in which nothing is to be seen has no words, and every other text is made up of its words. -/
private theorem flatten_wordsAfter (word text : List Char) :
    (wordsAfter word false text = [] ∧ ∀ c ∈ text, isBlank c = true) ∨
      (wordsAfter word false text).flatten = word.reverse ++ text := by
  induction text generalizing word with
  | nil => exact .inl ⟨rfl, List.forall_mem_nil _⟩
  | cons c rest ih =>
    rw [wordsAfter]
    split
    · rename_i blank
      exact (ih (c :: word)).imp (fun unseen => ⟨unseen.1, List.forall_mem_cons.2 ⟨blank, unseen.2⟩⟩)
        fun whole => by simpa using whole
    · rw [if_neg (by simp), flatten_wordsAfter_visible]
      exact .inr (by simp)

theorem flatten_words (text : List Char) :
    (words text = [] ∧ ∀ c ∈ text, isBlank c = true) ∨ (words text).flatten = text :=
  flatten_wordsAfter [] text

/-! ### Lines -/

theorem flatten_cut (width column : Nat) (piece : List Char) (clusters : List Text.Cluster) :
    (cut width column piece clusters).flatten =
      piece.reverse ++ clusters.flatMap Text.Cluster.chars := by
  induction clusters generalizing column piece with
  | nil => simp [cut]
  | cons cluster clusters ih =>
    rw [cut]
    split
    · simp [ih]
    · simp [ih]

/-- The text of lines of which the last one comes first. -/
def textOf (lines : List Line) : List Char := (lines.reverse.map Line.text).flatten

@[simp] theorem text_ofWord (word : List Char) : (Line.ofWord word).text = word := by
  simp [Line.text, Line.ofWord]

@[simp] theorem text_push (line : Line) (word : List Char) :
    (line.push word).text = line.text ++ word := by
  simp [Line.text, Line.push]

/-- Where a word goes: on the last line if it fits there but for its blanks, else on a line of its own,
or on several if it is too wide for one. -/
inductive Placed (width : Nat) (word : List Char) : List Line → List Line → Prop where
  | pushed {line : Line} {done : List Line} (room : line.column + visibleWidth word ≤ width) :
      Placed width word (line :: done) (line.push word :: done)
  | apart {lines : List Line} (narrow : visibleWidth word ≤ width) :
      Placed width word lines (.ofWord word :: lines)
  | cut {lines : List Line} (wide : width < visibleWidth word) :
      Placed width word lines
        (((Layout.cut width 0 [] (Text.clusters word)).map Line.ofWord).reverse ++ lines)

theorem placed_place (width : Nat) (lines : List Line) (word : List Char) :
    Placed width word lines (place width lines word) := by
  cases lines with
  | nil =>
    simp only [place, Nat.zero_add]
    split
    · exact .apart ‹_›
    · rw [if_pos (by omega)]
      exact .cut (by omega)
  | cons line done =>
    simp only [place]
    split
    · exact .pushed ‹_›
    · split
      · exact .cut ‹_›
      · exact .apart (by omega)

private theorem Placed.textOf_eq {width : Nat} {word : List Char} {before after : List Line}
    (h : Placed width word before after) : textOf after = textOf before ++ word := by
  cases h with
  | pushed => simp [textOf]
  | apart => simp [textOf]
  | cut =>
    have whole := flatten_cut width 0 [] (Text.clusters word)
    rw [Text.flatMap_clusters] at whole
    have texts : (Layout.cut width 0 [] (Text.clusters word)).map (Line.text ∘ Line.ofWord) =
        Layout.cut width 0 [] (Text.clusters word) := by
      simp [Function.comp_def]
    rw [textOf, List.reverse_append, List.reverse_reverse, List.map_append, List.map_map, texts,
      List.flatten_append, whole]
    rfl

private theorem textOf_foldl_place (width : Nat) (lines : List Line) (words : List (List Char)) :
    textOf (words.foldl (place width) lines) = textOf lines ++ words.flatten := by
  induction words generalizing lines with
  | nil => simp
  | cons word words ih =>
    rw [List.foldl_cons, ih, (placed_place width lines word).textOf_eq, List.flatten_cons,
      List.append_assoc]

/-- A line without some of the blanks at its end. -/
def Stripped (stripped line : List Char) : Prop :=
  ∃ blanks, line = stripped ++ blanks ∧ ∀ c ∈ blanks, isBlank c = true

/-- What a line ends in, behind the last of its characters that is to be seen. -/
theorem exists_blanks (line : List Char) : ∃ seen blanks, line = seen ++ blanks ∧
    visibleWidth line = cellCount seen ∧ blanks.length = (line.reverse.takeWhile isBlank).length ∧
    ∀ c ∈ blanks, isBlank c = true := by
  refine ⟨(line.reverse.dropWhile isBlank).reverse, (line.reverse.takeWhile isBlank).reverse, ?_, rfl,
    List.length_reverse, fun c among => List.mem_takeWhile_imp (List.mem_reverse.1 among)⟩
  rw [← List.reverse_append, List.takeWhile_append_dropWhile, List.reverse_reverse]

theorem Stripped.refl (line : List Char) : Stripped line line :=
  ⟨[], (List.append_nil line).symm, List.forall_mem_nil _⟩

private theorem Stripped.trans {first second third : List Char} (h : Stripped first second)
    (h' : Stripped second third) : Stripped first third := by
  obtain ⟨blanks, rfl, blank⟩ := h
  obtain ⟨blanks', rfl, blank'⟩ := h'
  exact ⟨blanks ++ blanks', List.append_assoc .., List.forall_mem_append.2 ⟨blank, blank'⟩⟩

theorem Stripped.append_left {stripped line : List Char} (front : List Char)
    (h : Stripped stripped line) : Stripped (front ++ stripped) (front ++ line) := by
  obtain ⟨blanks, rfl, blank⟩ := h
  exact ⟨blanks, (List.append_assoc ..).symm, blank⟩

private theorem stripped_dropExcessBlanks (width : Nat) (line : List Char) :
    Stripped (dropExcessBlanks width line) line := by
  obtain ⟨seen, blanks, split, -, count, blank⟩ := exists_blanks line
  refine ⟨_, (List.take_append_drop _ line).symm, fun c among => ?_⟩
  -- What is dropped stands within the blanks that the line ends in.
  have size := congrArg List.length split
  rw [List.length_append] at size
  rw [split, List.drop_append, List.drop_eq_nil_of_le, List.nil_append] at among
  · exact blank c (List.mem_of_mem_drop among)
  · rw [← split]
    omega

/-- Lines made of consecutive pieces of a text, each without some of the blanks at its end. -/
def CutInto (text : List Char) (lines : List (List Char)) : Prop :=
  ∃ pieces, pieces.flatten = text ∧ List.Forall₂ Stripped lines pieces

theorem cutInto_wrap (width : Nat) (text : List Char) : CutInto text (wrap width text) := by
  have stripped (pieces : List (List Char)) :
      List.Forall₂ Stripped (pieces.map (dropExcessBlanks width)) pieces := by
    rw [List.forall₂_map_left_iff]
    exact List.forall₂_same.2 fun piece _ => stripped_dropExcessBlanks width piece
  unfold wrap
  refine ⟨_, ?_, stripped _⟩
  rcases flatten_words text with ⟨none_seen, -⟩ | whole
  · rw [none_seen]
    simp
  · split
    · simp
    · have placed := textOf_foldl_place width [] (words text)
      rw [whole] at placed
      exact placed

private theorem CutInto.stripped {text : List Char} {lines : List (List Char)}
    {f : List Char → List Char} (h : CutInto text lines)
    (strips : ∀ line ∈ lines, Stripped (f line) line) :
    CutInto text (lines.map f) := by
  obtain ⟨pieces, whole, cut⟩ := h
  refine ⟨pieces, whole, ?_⟩
  induction cut generalizing text with
  | nil => exact .nil
  | cons here later ih =>
    obtain ⟨first, others⟩ := List.forall_mem_cons.1 strips
    exact .cons (first.trans here) (ih others rfl)

private theorem cut_ne_nil (width column : Nat) (piece : List Char) (clusters : List Text.Cluster) :
    cut width column piece clusters ≠ [] := by
  induction clusters generalizing column piece with
  | nil => exact List.cons_ne_nil _ _
  | cons cluster clusters ih =>
    rw [cut]
    split
    · exact List.cons_ne_nil _ _
    · exact ih _ _

private theorem Placed.ne_nil {width : Nat} {word : List Char} {before after : List Line}
    (h : Placed width word before after) : after ≠ [] := by
  cases h with
  | pushed => exact List.cons_ne_nil _ _
  | apart => exact List.cons_ne_nil _ _
  | cut => simp [cut_ne_nil]

/-- Even an empty text has a line. -/
private theorem wrap_ne_nil (width : Nat) (text : List Char) : wrap width text ≠ [] := by
  have placed (words : List (List Char)) {lines : List Line} (hasLines : lines ≠ []) :
      words.foldl (place width) lines ≠ [] := by
    induction words generalizing lines with
    | nil => exact hasLines
    | cons word words ih => exact ih (placed_place width lines word).ne_nil
  unfold wrap
  rw [ne_eq, List.map_eq_nil_iff]
  split
  · exact List.cons_ne_nil _ _
  · rename_i hasWords
    obtain ⟨word, others, seen⟩ := List.exists_cons_of_ne_nil hasWords
    rw [seen, List.map_eq_nil_iff, List.reverse_eq_nil_iff, List.foldl_cons]
    exact placed others (placed_place width [] word).ne_nil

/-! ### Texts -/

private theorem Stripped.broken {stripped line extra : List Char} (h : Stripped stripped line)
    (blank : ∀ c ∈ extra, isBlank c = true) : Broken (line ++ extra) (stripped ++ ['\n']) := by
  obtain ⟨blanks, rfl, blank'⟩ := h
  rw [List.append_assoc]
  refine (Broken.refl stripped).append ?_
  rw [← List.append_nil (blanks ++ extra)]
  refine .lineEnd (fun c among => ?_) .nil
  rcases List.mem_append.1 among with among | among
  · exact blank' c among
  · exact blank c among

/-- Blanks behind a text may go into the line end behind its last line. -/
private theorem CutInto.broken {text extra : List Char} {lines : List (List Char)}
    (h : CutInto text lines) (hasLines : lines ≠ []) (blank : ∀ c ∈ extra, isBlank c = true) :
    Broken (text ++ extra) (written lines) := by
  obtain ⟨pieces, rfl, stripped⟩ := h
  induction stripped with
  | nil => exact absurd rfl hasLines
  | @cons line piece lines pieces here later ih =>
    rw [List.flatten_cons, List.append_assoc, written, List.flatMap_cons]
    cases later with
    | nil =>
      rw [List.flatten_nil, List.nil_append, List.flatMap_nil, List.append_nil]
      exact here.broken blank
    | cons next others =>
      have first := here.broken (List.forall_mem_nil _)
      rw [List.append_nil] at first
      exact first.append (ih (List.cons_ne_nil _ _))

private theorem broken_of_lines {width : Nat} {texts : List (List Char)} (hasTexts : texts ≠ [])
    (fits : ∀ text ∈ texts, ∀ line ∈ wrap width (expandTabs text), Stripped (crop width line) line) :
    Broken (['\n'].intercalate (texts.map expandTabs))
      (written ((texts.flatMap fun text => wrap width (expandTabs text)).map (crop width))) := by
  induction texts with
  | nil => exact absurd rfl hasTexts
  | cons text others ih =>
    obtain ⟨fitsHere, fitsLater⟩ := List.forall_mem_cons.1 fits
    have here := (cutInto_wrap width (expandTabs text)).stripped fitsHere
    have lines : (wrap width (expandTabs text)).map (crop width) ≠ [] := by
      simpa using wrap_ne_nil width (expandTabs text)
    rw [List.map_cons, List.flatMap_cons, List.map_append, written, List.flatMap_append]
    by_cases last : others = []
    · subst last
      have whole := here.broken lines (List.forall_mem_nil _)
      simpa [List.intercalate, written] using whole
    · rw [List.intercalate_cons_of_ne_nil (by simpa using last), List.append_assoc,
        ← List.append_assoc]
      have first : Broken (expandTabs text ++ ['\n'])
          (written ((wrap width (expandTabs text)).map (crop width))) :=
        here.broken lines (List.forall_mem_singleton.2 rfl)
      exact first.append (ih last fitsLater)

private theorem spread_of_lines (texts : List (List Char)) :
    Spread (['\n'].intercalate texts) (['\n'].intercalate (texts.map expandTabs)) := by
  induction texts with
  | nil => exact .nil
  | cons text others ih =>
    by_cases last : others = []
    · subst last
      simpa [List.intercalate] using spread_expandTabs text
    · rw [List.map_cons, List.intercalate_cons_of_ne_nil last,
        List.intercalate_cons_of_ne_nil (by simpa using last)]
      exact ((spread_expandTabs text).append (.refl (by decide))).append ih

/-- Cropping takes nothing off the lines of a text but blanks at their ends. -/
def Fits (width : Nat) (text : List Char) : Prop :=
  ∀ line ∈ broken width text, Stripped (crop width line) line

/-- A text is wrapped into its lines, if they fit. -/
theorem wrapped_lines {width : Nat} {text : List Char} (fits : Fits width text) :
    Wrapped text (written (lines width text)) := by
  have spread := spread_of_lines (List.splitOn '\n' text)
  rw [List.intercalate_splitOn] at spread
  refine ⟨_, spread, broken_of_lines (List.splitOn_ne_nil '\n' text) ?_⟩
  exact fun part among line within => fits line (List.mem_flatMap.2 ⟨part, among, within⟩)

end ContainerLogs.Console.Layout
