import ContainerLogs.FileTree.Lookup
import Mathlib.Data.List.TakeDrop

/-!
Paths and the names by which they are walked. A path that was read from a text is plain: its parts
hold no slash, so the text that it is looked up by falls into its parts again.
-/
namespace ContainerLogs

namespace Text

variable {separator : Char} {front text : List Char}

theorem not_mem_of_mem_splitOn {part : List Char} (among : part ∈ List.splitOn separator text) :
    separator ∉ part := by
  induction text generalizing part with
  | nil =>
    rw [List.splitOn_nil, List.mem_singleton] at among
    rw [among]
    exact List.not_mem_nil
  | cons c text ih =>
    rw [List.splitOn_cons_eq_if_modifyHead] at among
    split at among
    · rcases List.mem_cons.1 among with rfl | among
      · exact List.not_mem_nil
      · exact ih among
    · rename_i other
      obtain ⟨first, others, parts⟩ := List.exists_cons_of_ne_nil (List.splitOn_ne_nil separator text)
      rw [parts] at ih among
      rw [List.modifyHead_cons] at among
      rcases List.mem_cons.1 among with rfl | among
      · exact mt List.mem_cons.1 (not_or.2 ⟨fun same => other (by simp [same]), ih List.mem_cons_self⟩)
      · exact ih (List.mem_cons_of_mem _ among)

/-- A part of a text stands in it. -/
theorem isInfix_of_mem_splitOn {part : List Char}
    (among : part ∈ List.splitOn separator text) : part <:+: text := by
  have joined {parts : List (List Char)} (among : part ∈ parts) :
      part <:+: [separator].intercalate parts := by
    induction parts with
    | nil => cases among
    | cons first others ih =>
      by_cases alone : others = []
      · subst alone
        rw [List.mem_singleton.1 among]
        simp only [List.intercalate_singleton, List.infix_rfl]
      · rw [List.intercalate_cons_of_ne_nil alone, List.append_assoc]
        rcases List.mem_cons.1 among with rfl | among
        · exact (List.prefix_append _ _).isInfix
        · exact (ih among).trans ⟨first ++ [separator], [], by simp⟩
  have inside := joined among
  rwa [List.intercalate_splitOn] at inside

/-- The parts of a text are what it is joined from, if the separator stands in none of them. -/
theorem splitOn_eq_iff {parts : List (List Char)} (hasParts : parts ≠ [])
    (absent : ∀ part ∈ parts, separator ∉ part) :
    List.splitOn separator text = parts ↔ text = [separator].intercalate parts := by
  constructor
  · intro split
    rw [← split, List.intercalate_splitOn]
  · intro joined
    rw [joined, List.splitOn_intercalate separator absent hasParts]

end Text

namespace Path

/-- A part that a name can be. -/
def PlainPart (part : String) : Prop := part ≠ "" ∧ '/' ∉ part.toList

instance (part : String) : Decidable (PlainPart part) :=
  inferInstanceAs (Decidable (part ≠ "" ∧ '/' ∉ part.toList))

theorem plainPart_ofList {chars : List Char} (nonempty : chars ≠ []) (absent : '/' ∉ chars) :
    PlainPart (String.ofList chars) :=
  ⟨by simpa using nonempty, by simpa using absent⟩

/-- An anchor that is read as one, and parts that are read as one part each. -/
structure Plain (path : Path) : Prop where
  anchor : path.anchor = "" ∨ path.anchor = "/" ∨ path.anchor = "//"
  parts : ∀ part ∈ path.parts, PlainPart part

theorem plain_ofText (text : String) : (ofText text).Plain where
  anchor := by
    simp only [ofText, anchorOf]
    split <;> simp
  parts part among := by
    obtain ⟨among, kept⟩ := List.mem_filter.1 among
    obtain ⟨chars, split, rfl⟩ := List.mem_map.1 among
    refine ⟨by simpa using (of_decide_eq_true kept).1, ?_⟩
    rw [String.toList_ofList]
    exact Text.not_mem_of_mem_splitOn split

theorem ofText_single {name : String} (plain : PlainPart name) (other : name ≠ ".") :
    ofText name = ⟨"", [name]⟩ := by
  obtain ⟨nonempty, absent⟩ := plain
  have anchor : anchorOf name.toList = "" := by
    unfold anchorOf
    split <;> simp_all
  simp [ofText, anchor, partsOf, List.splitOn_eq_singleton absent, nonempty, other]

theorem text_single (name : String) : (⟨"", [name]⟩ : Path).text = name := by
  simp [text]

/-- The text of a path with a last part, by that part. -/
private theorem text_concat (anchor : String) (front : List String) (last : String) :
    (⟨anchor, front ++ [last]⟩ : Path).text =
      (if front = [] then anchor else anchor ++ "/".intercalate front ++ "/") ++ last := by
  rw [text, if_neg (by simp)]
  by_cases alone : front = []
  · simp [alone]
  · rw [if_neg alone, String.intercalate_append_of_ne_nil alone (by simp),
      String.intercalate_singleton]
    simp [String.append_assoc]

theorem text_append {path : Path} {names : List String} (hasParts : path.parts ≠ [])
    (more : names ≠ []) :
    (path.append ⟨"", names⟩).text = path.text ++ "/" ++ "/".intercalate names := by
  rw [text, append_parts _ _ rfl, append_anchor _ _ rfl, if_neg (by simp [hasParts]), text,
    if_neg (by simp [hasParts]), String.intercalate_append_of_ne_nil hasParts more]
  simp only [String.append_assoc]

theorem text_append_single {path : Path} (hasParts : path.parts ≠ []) (name : String) :
    (path.append ⟨"", [name]⟩).text = path.text ++ "/" ++ name := by
  rw [text_append hasParts (List.cons_ne_nil _ _), String.intercalate_singleton]

/-- The text of a path tells its last part. -/
theorem last_eq_of_text {path other : Path} (hasParts : path.parts ≠ [])
    (hasParts' : other.parts ≠ [])
    {name name' : String} (plain : PlainPart name) (plain' : PlainPart name')
    (same : (path.append ⟨"", [name]⟩).text = (other.append ⟨"", [name']⟩).text) : name = name' := by
  rw [text_append_single hasParts, text_append_single hasParts'] at same
  have chars := congrArg String.toList same
  simp only [String.toList_append, List.append_assoc] at chars
  have slash : "/".toList = ['/'] := rfl
  rw [slash, List.singleton_append, List.singleton_append] at chars
  rw [← String.toList_inj]
  rcases List.append_eq_append_iff.1 chars with ⟨more, -, tail⟩ | ⟨more, -, tail⟩
  · rcases List.cons_eq_append_iff.1 tail with ⟨-, here⟩ | ⟨rest, -, there⟩
    · exact (List.cons.inj here).2.symm
    · exact absurd (there ▸ by simp) plain.2
  · rcases List.cons_eq_append_iff.1 tail with ⟨-, here⟩ | ⟨rest, -, there⟩
    · exact (List.cons.inj here).2
    · exact absurd (there ▸ by simp) plain'.2

private theorem mem_of_mem_stem {name : List Char} {c : Char} (among : c ∈ stem name) :
    c ∈ name := by
  unfold stem at among
  rw [List.span_eq_takeWhile_dropWhile] at among
  split at among
  · rename_i extension dot front same
    split at among
    · exact among
    · split at among
      · have rest : name.reverse.dropWhile (fun c => decide (c ≠ '.')) = dot :: front :=
          congrArg Prod.snd same
        have there : c ∈ name.reverse.dropWhile (fun c => decide (c ≠ '.')) := by
          rw [rest]
          exact List.mem_cons_of_mem _ (List.mem_reverse.1 among)
        exact List.mem_reverse.1 ((List.dropWhile_sublist _).subset there)
      · exact among
  · exact among

/-- A path with another extension has another last part. -/
theorem split_of_withExtension? {path other : Path} {extension : String}
    (named : path.withExtension? extension = some other) : ∃ front last,
      path.parts = front ++ [last] ∧ other =
        ⟨path.anchor, front ++ [String.ofList (stem last.toList ++ extension.toList)]⟩ := by
  unfold withExtension? at named
  split at named
  · cases named
  · rename_i last ends
    cases named
    obtain ⟨front, parts⟩ := List.getLast?_eq_some_iff.1 ends
    exact ⟨front, last, parts, by simp [parts]⟩

namespace Plain

variable {path : Path} (h : path.Plain)

theorem toList_text (hasParts : path.parts ≠ []) :
    path.text.toList = path.anchor.toList ++ ['/'].intercalate (path.parts.map String.toList) := by
  rw [text, if_neg (by simp [hasParts]), String.toList_append, String.toList_intercalate]
  rfl

include h

theorem append {names : List String} (plain : ∀ name ∈ names, PlainPart name) :
    (path.append ⟨"", names⟩).Plain where
  anchor := by simpa using h.anchor
  parts part among := by
    rw [append_parts _ _ rfl] at among
    rcases List.mem_append.1 among with mine | other
    · exact h.parts part mine
    · exact plain part other

/-- A path with another extension is plain if it was. -/
theorem withExtension? {other : Path} {extension : String} (plain : PlainPart extension)
    (named : path.withExtension? extension = some other) : other.Plain := by
  obtain ⟨front, last, parts, rfl⟩ := split_of_withExtension? named
  obtain ⟨nonempty, absent⟩ := plain
  refine ⟨h.anchor, fun part among => ?_⟩
  rcases List.mem_append.1 among with earlier | renamed
  · exact h.parts part (by simp [parts, earlier])
  · obtain rfl := List.mem_singleton.1 renamed
    have mine := (h.parts last (by simp [parts])).2
    refine plainPart_ofList (by simp [nonempty]) fun among => ?_
    rcases List.mem_append.1 among with kept | added
    · exact mine (mem_of_mem_stem kept)
    · exact absent added

theorem splitOn_joined (hasParts : path.parts ≠ []) :
    List.splitOn '/' (['/'].intercalate (path.parts.map String.toList)) =
      path.parts.map String.toList := by
  refine List.splitOn_intercalate _ ?_ (by simpa using hasParts)
  intro part among
  obtain ⟨name, among', rfl⟩ := List.mem_map.1 among
  exact (h.parts name among').2

/-- A path with parts does not end in a slash. -/
theorem getLast?_text (hasParts : path.parts ≠ []) : path.text.toList.getLast? ≠ some '/' := by
  obtain ⟨anchor, parts⟩ := path
  obtain ⟨front, last, rfl⟩ := (List.eq_nil_or_concat parts).resolve_left hasParts
  obtain ⟨nonempty, absent⟩ := h.parts last (by simp)
  rw [List.concat_eq_append, text_concat, String.toList_append, List.getLast?_append]
  cases ends : last.toList.getLast? with
  | none => exact absurd (by simpa using ends) nonempty
  | some c =>
    rintro ⟨⟩
    exact absent (List.mem_of_getLast? ends)

theorem text_ne_empty (hasParts : path.parts ≠ []) : path.text ≠ "" := by
  obtain ⟨first, others, parts⟩ := List.exists_cons_of_ne_nil hasParts
  obtain ⟨nonempty, -⟩ := h.parts first (by simp [parts])
  intro nothing
  have chars := toList_text hasParts
  rw [nothing, parts] at chars
  by_cases alone : others = [] <;>
    simp_all [List.intercalate, List.intersperse]

/-- A path is walked by its parts. -/
theorem steps_text (hasParts : path.parts ≠ []) : FileTree.steps path.text.toList = path.parts := by
  have names : ((path.parts.map String.toList).map String.ofList).filter (· ≠ "") = path.parts := by
    rw [List.map_map, List.filter_eq_self.2]
    · simp
    · intro part among
      obtain ⟨name, among', rfl⟩ := List.mem_map.1 among
      simpa using (h.parts name among').1
  have joined := h.splitOn_joined hasParts
  rw [FileTree.steps, if_neg (h.getLast?_text hasParts), toList_text hasParts]
  rcases h.anchor with anchor | anchor | anchor <;> rw [anchor]
  · simpa [joined] using names
  · simpa [List.splitOn_cons_eq_if_modifyHead, joined] using names
  · simpa [List.splitOn_cons_eq_if_modifyHead, joined] using names

/-- The parts of a path do not begin with a slash. -/
theorem head_joined (hasParts : path.parts ≠ []) : ∃ c rest,
    ['/'].intercalate (path.parts.map String.toList) = c :: rest ∧ c ≠ '/' := by
  obtain ⟨first, others, parts⟩ := List.exists_cons_of_ne_nil hasParts
  obtain ⟨nonempty, absent⟩ := h.parts first (by simp [parts])
  obtain ⟨c, chars, same⟩ := List.exists_cons_of_ne_nil (mt String.toList_eq_nil_iff.1 nonempty)
  have other : c ≠ '/' := by
    rintro rfl
    exact absent (by simp [same])
  by_cases alone : others = []
  · exact ⟨c, chars, by simp [parts, alone, same], other⟩
  · have more : others.map String.toList ≠ [] := by simpa using alone
    rw [parts, List.map_cons, List.intercalate_cons_of_ne_nil more, same]
    exact ⟨c, _, rfl, other⟩

theorem isAbsolute_text (hasParts : path.parts ≠ []) :
    FileTree.isAbsolute path.text.toList = decide (path.anchor ≠ "") := by
  obtain ⟨c, rest, joined, other⟩ := h.head_joined hasParts
  rw [FileTree.isAbsolute, toList_text hasParts, joined]
  rcases h.anchor with anchor | anchor | anchor <;> rw [anchor]
  · simp [other]
  · simp
  · simp

end Plain

end Path

end ContainerLogs
