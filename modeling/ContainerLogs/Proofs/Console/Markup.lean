import ContainerLogs.Console.Markup
import Mathlib.Data.List.Infix
import Mathlib.Data.List.TakeWhile

/-!
What marked-up text shows. A text without tags, escaped brackets, names of emoji and terminal controls
is shown as it stands. A text cannot be shown exactly if it holds a closing tag that closes nothing.
-/
namespace ContainerLogs.Console

namespace Emoji

private theorem replaceNames_cons_of_ne {c : Char} (other : c ≠ ':') (text : List Char) :
    replaceNames (c :: text) = c :: replaceNames text := by
  rw [replaceNames, if_neg other]

private theorem replaceNames_append {front : List Char} (absent : ':' ∉ front) (back : List Char) :
    replaceNames (front ++ back) = front ++ replaceNames back := by
  induction front with
  | nil => rfl
  | cons c front ih =>
    obtain ⟨other, absent⟩ := not_or.1 (mt List.mem_cons.2 absent)
    rw [List.cons_append, replaceNames_cons_of_ne (Ne.symm other), ih absent]
    rfl

theorem replaceNames_of_absent {text : List Char} (absent : ':' ∉ text) : replaceNames text = text := by
  have whole := replaceNames_append absent []
  rwa [List.append_nil, replaceNames, List.append_nil] at whole

/-- A colon with a blank behind it, or with nothing, starts no name. -/
private theorem replaceNames_colon {text : List Char}
    (blank : ∀ c ∈ text.head?, Text.isBlank c = true) :
    replaceNames (':' :: text) = ':' :: replaceNames text := by
  rw [replaceNames, if_pos rfl]
  split
  · rename_i after ended
    cases text with
    | nil => cases ended
    | cons c text =>
      have stops : isCodeChar c = false := by simp [isCodeChar, blank c rfl]
      rw [List.dropWhile_cons_of_neg (by simp [stops])] at ended
      cases ended
      exact absurd (blank ':' rfl) (by decide)
  · rfl

/-- The only colon of a text starts no name. -/
theorem replaceNames_of_one_colon (front back : List Char) (absent : ':' ∉ front) (absent' : ':' ∉ back)
    (blank : ∀ c ∈ back.head?, Text.isBlank c = true) :
    replaceNames (front ++ ':' :: back) = front ++ ':' :: back := by
  rw [replaceNames_append absent, replaceNames_colon blank, replaceNames_of_absent absent']

end Emoji

namespace Markup

/-- The inside of a tag. -/
def IsTagBody (body : List Char) : Prop :=
  ∃ c name, body = c :: name ∧ startsTag c = true ∧ ∀ d ∈ name, isBracket d = false

theorem IsTagBody.of_all {c : Char} {name : List Char} (starts : startsTag c = true)
    (inside : name.all (¬ isBracket ·) = true) : IsTagBody (c :: name) :=
  ⟨c, name, rfl, starts, fun d among => by simpa using List.all_eq_true.1 inside d among⟩

/-- A text that has no meaning for the console beyond its characters. -/
structure Plain (text : List Char) : Prop where
  noTag : ∀ body, IsTagBody body → ¬ '[' :: (body ++ [']']) <:+: text
  noEscape : ¬ ['\\', '['] <:+: text
  noName : Emoji.replaceNames text = text
  noControl : ∀ c ∈ text, isTerminalControl c = false

variable {text before body after : List Char}

theorem Plain.of_absent (absent : '[' ∉ text) (noName : Emoji.replaceNames text = text)
    (noControl : text.all (¬ isTerminalControl ·) = true) : Plain text where
  noTag _ _ inside := absent (inside.mem List.mem_cons_self)
  noEscape inside := absent (inside.mem (by simp))
  noName := noName
  noControl c among := by simpa using List.all_eq_true.1 noControl c among

theorem Plain.filter_eq (plain : Plain text) : text.filter (¬ isTerminalControl ·) = text :=
  List.filter_eq_self.2 fun c among => by simpa using plain.noControl c among

private theorem tagBody?_eq_some (found : tagBody? text = some (body, after)) :
    IsTagBody body ∧ text = body ++ ']' :: after := by
  cases text with
  | nil => cases found
  | cons c rest =>
    simp only [tagBody?] at found
    split at found
    · rename_i starts
      split at found
      · rename_i tail ended
        cases found
        refine ⟨⟨c, _, rfl, starts, fun d among => ?_⟩, ?_⟩
        · simpa using List.mem_takeWhile_imp among
        · rw [List.cons_append, ← ended, List.takeWhile_append_dropWhile]
      · cases found
    · cases found

private theorem tagBody?_append (tag : IsTagBody body) (after : List Char) :
    tagBody? (body ++ ']' :: after) = some (body, after) := by
  obtain ⟨c, name, rfl, starts, inside⟩ := tag
  have passed : ∀ d ∈ name, (¬ isBracket d : Bool) = true := fun d among => by simp [inside d among]
  have dropped : (name ++ ']' :: after).dropWhile (¬ isBracket ·) = ']' :: after := by
    rw [List.dropWhile_append_of_pos passed]
    rfl
  have taken : (name ++ ']' :: after).takeWhile (¬ isBracket ·) = name := by
    rw [List.takeWhile_append_of_pos passed]
    exact List.append_nil name
  rw [List.cons_append, tagBody?, if_pos starts, dropped, taken]
  rfl

/-- A tag ends the text before it. -/
private theorem piecesAfter_tag (tag : IsTagBody body) (before after : List Char) :
    piecesAfter before ('[' :: (body ++ ']' :: after)) = endText before body ++ pieces after := by
  rw [piecesAfter, if_pos rfl]
  split
  · rename_i body' after' found
    rw [tagBody?_append tag] at found
    cases found
    rfl
  · rename_i found
    rw [tagBody?_append tag] at found
    cases found

/-- A character that starts no tag goes to the text. -/
theorem piecesAfter_cons {c : Char} (noTag : c = '[' → tagBody? text = none) (before : List Char) :
    piecesAfter before (c :: text) = piecesAfter (c :: before) text := by
  rw [piecesAfter]
  split
  · rename_i bracket
    split
    · rename_i found
      rw [noTag bracket] at found
      cases found
    · rfl
  · rfl

theorem piecesAfter_append (absent : '[' ∉ text) (before rest : List Char) :
    piecesAfter before (text ++ rest) = piecesAfter (text.reverse ++ before) rest := by
  induction text generalizing before with
  | nil => rfl
  | cons c text ih =>
    obtain ⟨other, absent⟩ := not_or.1 (mt List.mem_cons.2 absent)
    rw [List.cons_append, piecesAfter_cons fun bracket => absurd bracket.symm other, ih absent]
    simp

private theorem unescape_eq_self (plain : ¬ ['\\', '['] <:+: text) : unescape text = text := by
  fun_induction unescape text with
  | case1 rest => exact absurd ⟨[], rest, rfl⟩ plain
  | case2 c rest _ ih =>
    rw [ih fun inside => plain (inside.trans (List.suffix_cons c rest).isInfix)]
  | case3 => rfl

/-- Text without tags is one piece. -/
private theorem piecesAfter_of_noTag
    (noTag : ∀ body, IsTagBody body → ¬ '[' :: (body ++ [']']) <:+: text) (before : List Char) :
    piecesAfter before text = plainPiece (unescape (before.reverse ++ text)) := by
  induction text generalizing before with
  | nil => rw [piecesAfter, List.append_nil]
  | cons c rest ih =>
    have here : c = '[' → tagBody? rest = none := by
      intro bracket
      cases found : tagBody? rest with
      | none => rfl
      | some tagged =>
        obtain ⟨tag, same⟩ := tagBody?_eq_some found
        refine absurd ⟨[], tagged.2, ?_⟩ (noTag tagged.1 tag)
        rw [bracket, same]
        simp
    have later : ∀ body, IsTagBody body → ¬ '[' :: (body ++ [']']) <:+: rest :=
      fun body tag inside => noTag body tag (inside.trans (List.suffix_cons c rest).isInfix)
    rw [piecesAfter_cons here, ih later, List.reverse_cons, List.append_assoc, List.singleton_append]

/-- Pieces with a closing tag that closes nothing, where some tags are open already, the last one
first. -/
inductive Unmatched : (opened : List (List Char)) → List Piece → Prop where
  | nothingOpen {name : List Char} {rest : List Piece} : Unmatched [] (.closing name :: rest)
  | notOpen {opened : List (List Char)} {name : List Char} {rest : List Piece} (named : name ≠ [])
      (absent : name ∉ opened) : Unmatched opened (.closing name :: rest)
  | plain {opened : List (List Char)} {text : List Char} {rest : List Piece}
      (later : Unmatched opened rest) : Unmatched opened (.plain text :: rest)
  | opening {opened : List (List Char)} {name : List Char} {rest : List Piece}
      (later : Unmatched (name :: opened) rest) : Unmatched opened (.opening name :: rest)
  | closingLast {last : List Char} {opened : List (List Char)} {rest : List Piece}
      (later : Unmatched opened rest) : Unmatched (last :: opened) (.closing [] :: rest)
  | closing {opened : List (List Char)} {name : List Char} {rest : List Piece} (named : name ≠ [])
      (among : name ∈ opened) (later : Unmatched (opened.erase name) rest) :
      Unmatched opened (.closing name :: rest)

/-- The pieces can be shown or not, as their tags match. -/
theorem textOf_eq_error_iff {opened : List (List Char)} {pieces : List Piece} :
    (∃ fault, textOf opened pieces = .error fault) ↔ Unmatched opened pieces := by
  constructor
  · rintro ⟨fault, failed⟩
    fun_induction textOf opened pieces with
    | case1 => cases failed
    | case2 opened text rest ih =>
      cases shown : textOf opened rest with
      | ok text => simp [shown, Except.map] at failed
      | error fault' =>
        rw [shown] at failed ih
        cases failed
        exact .plain (ih rfl)
    | case3 opened name rest ih => exact .opening (ih failed)
    | case4 name rest => exact .nothingOpen
    | case5 last opened name rest unnamed ih =>
      obtain rfl : name = [] := by simpa using unnamed
      exact .closingLast (ih failed)
    | case6 last opened name rest named among ih =>
      exact .closing (by simpa using named) among (ih failed)
    | case7 last opened name rest named absent => exact .notOpen (by simpa using named) absent
  · intro unmatched
    induction unmatched with
    | nothingOpen => exact ⟨_, rfl⟩
    | @notOpen opened name rest named absent =>
      cases opened with
      | nil => exact ⟨_, rfl⟩
      | cons last opened => exact ⟨_, by rw [textOf, if_neg (by simpa using named), if_neg absent]⟩
    | @plain opened text rest _ ih =>
      obtain ⟨fault, failed⟩ := ih
      exact ⟨fault, by rw [textOf, failed]; rfl⟩
    | opening _ ih => exact ih
    | closingLast _ ih => exact ih
    | @closing opened name rest named among _ ih =>
      obtain ⟨fault, failed⟩ := ih
      cases opened with
      | nil => exact ⟨_, rfl⟩
      | cons last opened =>
        exact ⟨fault, by rw [textOf, if_neg (by simpa using named), if_pos among, failed]⟩

private theorem unmatched_plainPiece {opened : List (List Char)} {pieces : List Piece}
    (text : List Char) :
    Unmatched opened (plainPiece text ++ pieces) ↔ Unmatched opened pieces := by
  unfold plainPiece
  split
  · rfl
  · constructor
    · rintro (_ | _ | later)
      exact later
    · exact .plain

/-- What stands before a text is of no matter to its tags, but for the backslashes right before it. -/
theorem unmatched_piecesAfter {before before' : List Char} {opened : List (List Char)}
    (text : List Char)
    (same : before.takeWhile (· = '\\') = before'.takeWhile (· = '\\')) :
    Unmatched opened (piecesAfter before text) ↔ Unmatched opened (piecesAfter before' text) := by
  have further (c : Char) {front front' : List Char}
      (same : front.takeWhile (· = '\\') = front'.takeWhile (· = '\\')) :
      (c :: front).takeWhile (· = '\\') = (c :: front').takeWhile (· = '\\') := by
    simp only [List.takeWhile_cons, same]
  fun_induction piecesAfter before text generalizing before' with
  | case1 before =>
    have ended (text : List Char) : ¬ Unmatched opened (plainPiece text) := by
      rw [← List.append_nil (plainPiece text), unmatched_plainPiece]
      nofun
    rw [piecesAfter]
    exact iff_of_false (ended _) (ended _)
  | case2 before rest body after found ih =>
    obtain ⟨tag, rfl⟩ := tagBody?_eq_some found
    rw [piecesAfter_tag tag, endText, endText, same]
    simp only [List.append_assoc, unmatched_plainPiece]
    rfl
  | case3 before rest none_found ih =>
    rw [piecesAfter_cons fun _ => none_found]
    exact ih (further '[' same)
  | case4 before c rest other ih =>
    rw [piecesAfter_cons fun bracket => absurd bracket other]
    exact ih (further c same)

/-- The text before a tag that no backslash stands before. -/
private theorem endText_of_bare {before : List Char} (bare : before.head? ≠ some '\\')
    (body : List Char) :
    endText before body = plainPiece (unescape before.reverse) ++ [tag body] := by
  have none_there : before.takeWhile (· = '\\') = [] := by
    cases before with
    | nil => rfl
    | cons c before => exact List.takeWhile_cons_of_neg (by simpa using bare)
  have kept : before.dropWhile (· = '\\') = before := by
    have whole := List.takeWhile_append_dropWhile (p := (· = '\\')) (l := before)
    rwa [none_there, List.nil_append] at whole
  rw [endText, none_there, kept]
  simp [plainPiece]

theorem pieces_append_tag {front : List Char} (inside : IsTagBody body) (absent : '[' ∉ front)
    (bare : front.getLast? ≠ some '\\') (after : List Char) :
    pieces (front ++ '[' :: (body ++ ']' :: after)) = plainPiece front ++ tag body :: pieces after := by
  have noEscape : ¬ ['\\', '['] <:+: front := fun escape => absent (escape.mem (by simp))
  rw [pieces, piecesAfter_append absent, List.append_nil, piecesAfter_tag inside,
    endText_of_bare (by rwa [List.head?_reverse]), List.reverse_reverse, unescape_eq_self noEscape,
    List.append_assoc]
  rfl

private theorem infix_space_cons {c : Char} (other : c ≠ ' ') (word : List Char) :
    c :: word <:+: ' ' :: text ↔ c :: word <:+: text := by
  rw [List.infix_cons_iff, List.cons_prefix_cons]
  exact or_iff_right fun first => other first.1

theorem plain_space_cons : Plain (' ' :: text) ↔ Plain text := by
  have named : Emoji.replaceNames (' ' :: text) = ' ' :: Emoji.replaceNames text :=
    Emoji.replaceNames_cons_of_ne (by decide) text
  constructor
  · rintro ⟨noTag, noEscape, noName, noControl⟩
    rw [named] at noName
    exact ⟨fun body tag inside => noTag body tag ((infix_space_cons (by decide) _).2 inside),
      fun inside => noEscape ((infix_space_cons (by decide) _).2 inside),
      (List.cons.inj noName).2, (List.forall_mem_cons.1 noControl).2⟩
  · rintro ⟨noTag, noEscape, noName, noControl⟩
    exact ⟨fun body tag inside => noTag body tag ((infix_space_cons (by decide) _).1 inside),
      fun inside => noEscape ((infix_space_cons (by decide) _).1 inside),
      named.trans (congrArg _ noName), List.forall_mem_cons.2 ⟨by decide, noControl⟩⟩

private theorem pieces_of_plain
    (noTag : ∀ body, IsTagBody body → ¬ '[' :: (body ++ [']']) <:+: text)
    (noEscape : ¬ ['\\', '['] <:+: text) : pieces text = plainPiece text := by
  rw [pieces, piecesAfter_of_noTag noTag, List.reverse_nil, List.nil_append, unescape_eq_self noEscape]

/-- Plain text is shown as it is. -/
theorem textOf_of_plain (plain : Plain text) : textOf [] (pieces text) = .ok text := by
  rw [pieces_of_plain plain.noTag plain.noEscape]
  cases text with
  | nil => rfl
  | cons c rest => simp [plainPiece, textOf, Except.map, plain.noName]

/-! ### What goes lost -/

/-- The characters of the pieces that are text. -/
def plainText (pieces : List Piece) : List Char :=
  pieces.flatMap fun
    | .plain text => text
    | _ => []

@[simp] theorem plainText_append (front back : List Piece) :
    plainText (front ++ back) = plainText front ++ plainText back := List.flatMap_append

@[simp] theorem plainText_plainPiece (text : List Char) : plainText (plainPiece text) = text := by
  cases text <;> simp [plainPiece, plainText]

@[simp] theorem plainText_tag (body : List Char) : plainText [tag body] = [] := by
  unfold tag
  split <;> rfl

/-- Where no piece holds the name of an emoji, the text of all is shown. -/
private theorem textOf_eq_plainText {opened : List (List Char)} {pieces : List Piece}
    (nameless : ∀ text, .plain text ∈ pieces → Emoji.replaceNames text = text)
    (shown : textOf opened pieces = .ok text) : text = plainText pieces := by
  have later {piece : Piece} {pieces : List Piece}
      (nameless : ∀ text, .plain text ∈ piece :: pieces → Emoji.replaceNames text = text)
      (text : List Char) (among : .plain text ∈ pieces) : Emoji.replaceNames text = text :=
    nameless text (List.mem_cons_of_mem _ among)
  fun_induction textOf opened pieces generalizing text with
  | case1 =>
    cases shown
    rfl
  | case2 opened first rest ih =>
    have here := nameless first List.mem_cons_self
    cases others : textOf opened rest with
    | ok text' =>
      rw [others] at shown ih
      cases shown
      rw [here, ih (later nameless) rfl]
      rfl
    | error fault =>
      rw [others] at shown
      cases shown
  | case3 opened name rest ih => exact ih (later nameless) shown
  | case4 name rest => cases shown
  | case5 last opened name rest _ ih => exact ih (later nameless) shown
  | case6 last opened name rest _ _ ih => exact ih (later nameless) shown
  | case7 last opened name rest _ _ => cases shown

private theorem length_unescape_le (text : List Char) : (unescape text).length ≤ text.length := by
  fun_induction unescape text with
  | case1 rest ih => simp only [List.length_cons]; omega
  | case2 c rest _ ih => simp only [List.length_cons]; omega
  | case3 => exact Nat.le_refl 0

private theorem noEscape_of_length (whole : text.length ≤ (unescape text).length) :
    ¬ ['\\', '['] <:+: text := by
  fun_induction unescape text with
  | case1 rest =>
    have shorter := length_unescape_le rest
    simp only [List.length_cons] at whole
    omega
  | case2 c rest other ih =>
    rw [List.infix_cons_iff]
    rintro (first | later)
    · obtain ⟨after, same⟩ := first
      cases same
      exact other after rfl rfl
    · exact ih (by simpa using whole) later
  | case3 => simp

/-- Of a tag and the text before it, some character is always lost. -/
private theorem length_endText_lt (before body : List Char) :
    (plainText (endText before body)).length < before.length + body.length + 2 := by
  have split := congrArg List.length (List.takeWhile_append_dropWhile (p := (· = '\\')) (l := before))
  have fewer := length_unescape_le (before.dropWhile (· = '\\')).reverse
  rw [List.length_append] at split
  rw [List.length_reverse] at fewer
  simp only [endText, plainText_append, plainText_plainPiece, List.length_append, List.length_replicate]
  split
  · simp [plainText]
    omega
  · rw [plainText_tag, List.length_nil]
    omega

private theorem length_plainText_le (before text : List Char) :
    (plainText (piecesAfter before text)).length ≤ before.length + text.length := by
  fun_induction piecesAfter before text with
  | case1 before => simpa using length_unescape_le before.reverse
  | case2 before rest body after found ih =>
    obtain ⟨-, rfl⟩ := tagBody?_eq_some found
    have fewer := length_endText_lt before body
    simp only [plainText_append, List.length_append, List.length_cons, List.length_nil] at ih ⊢
    omega
  | case3 before rest _ ih => simp only [List.length_cons] at ih ⊢; omega
  | case4 before c rest _ ih => simp only [List.length_cons] at ih ⊢; omega

private theorem noTag_cons {c : Char} (here : c = '[' → tagBody? text = none)
    (later : ∀ body, IsTagBody body → ¬ '[' :: (body ++ [']']) <:+: text) :
    ∀ body, IsTagBody body → ¬ '[' :: (body ++ [']']) <:+: c :: text := by
  intro body tag inside
  rcases List.infix_cons_iff.1 inside with ⟨after, first⟩ | inside
  · rw [List.cons_append, List.append_assoc] at first
    obtain ⟨bracket, rest⟩ := List.cons.inj first
    have found := tagBody?_append tag after
    rw [List.singleton_append] at rest
    rw [rest, here bracket.symm] at found
    cases found
  · exact later body tag inside

/-- A text that loses no character has neither tags nor escaped brackets. -/
private theorem noTag_of_length
    (whole : before.length + text.length ≤ (plainText (piecesAfter before text)).length) :
    (∀ body, IsTagBody body → ¬ '[' :: (body ++ [']']) <:+: text) ∧
      ¬ ['\\', '['] <:+: before.reverse ++ text := by
  fun_induction piecesAfter before text with
  | case1 before =>
    refine ⟨by simp, noEscape_of_length ?_⟩
    simpa using whole
  | case2 before rest body after found ih =>
    obtain ⟨-, rfl⟩ := tagBody?_eq_some found
    have fewer := length_endText_lt before body
    have fewer' := length_plainText_le [] after
    simp only [plainText_append, List.length_append, List.length_cons, List.length_nil] at whole fewer'
    omega
  | case3 before rest none_found ih =>
    obtain ⟨noTag, noEscape⟩ := ih (by simpa [Nat.add_comm, Nat.add_left_comm] using whole)
    exact ⟨noTag_cons (fun _ => none_found) noTag, by simpa using noEscape⟩
  | case4 before c rest other ih =>
    obtain ⟨noTag, noEscape⟩ := ih (by simpa [Nat.add_comm, Nat.add_left_comm] using whole)
    exact ⟨noTag_cons (fun bracket => absurd bracket other) noTag, by simpa using noEscape⟩

/-- Where no piece holds the name of an emoji, nothing but plain text is shown as it is. -/
theorem plain_of_shown {shown : List Char}
    (nameless : ∀ part, .plain part ∈ pieces text → Emoji.replaceNames part = part)
    (marked : textOf [] (pieces text) = .ok shown)
    (same : shown.filter (¬ isTerminalControl ·) = text) : Plain text := by
  have made := textOf_eq_plainText nameless marked
  -- Characters are taken away in several steps and added in none, so none of the steps took any.
  have fewer := length_plainText_le [] text
  have uncontrolled : shown.filter (¬ isTerminalControl ·) = shown := by
    refine List.filter_sublist.eq_of_length_le ?_
    rw [same, made]
    simpa [pieces] using fewer
  obtain rfl : shown = text := uncontrolled.symm.trans same
  have whole : ([] : List Char).length + shown.length ≤ (plainText (piecesAfter [] shown)).length := by
    rw [List.length_nil, Nat.zero_add]
    exact (congrArg List.length made).le
  obtain ⟨noTag, noEscape⟩ := noTag_of_length whole
  refine ⟨noTag, noEscape, ?_, fun c among => ?_⟩
  · cases shown with
    | nil => rw [Emoji.replaceNames]
    | cons c rest => exact nameless _ (by simp [pieces_of_plain noTag noEscape, plainPiece])
  · simpa using List.filter_eq_self.1 uncontrolled c among

end Markup

end ContainerLogs.Console
