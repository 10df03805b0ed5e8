import ContainerLogs.Proofs.Toml.Printer
import ContainerLogs.Toml.Document

/-!
A written document is read as the table that was written. While it is read, the draft holds the
sections read so far: a header adds an empty one, and an entry is added to the last.
-/
namespace ContainerLogs.Toml

open Settings (Value Table)

/-- The nodes of a section under construction. -/
def sectionNodes (entries : Table) : Entries :=
  (entries.map fun entry => (entry.1, Node.complete entry.2)).reverse

/-- The nodes of a draft that holds sections. -/
def draftNodes (sections : List (String × Table)) : Entries :=
  (sections.map fun part => (part.1, Node.table (sectionNodes part.2))).reverse

/-- A draft that has read sections. -/
structure Draft.Holds (draft : Draft) (sections : List (String × Table)) : Prop where
  entries : draft.entries = draftNodes sections
  opened : ∀ key ∈ draft.opened, ∃ part ∈ sections, key = [part.1]
  complete : ∀ key ∈ draft.complete, key.length = 2
  pending : draft.pending = []

private theorem values_sectionNodes (entries : Table) :
    Entries.values (sectionNodes entries) = entries.reverse := by
  have values (list : Table) :
      Entries.values (list.map fun entry => (entry.1, Node.complete entry.2)) = list := by
    induction list with
    | nil => simp [Entries.values]
    | cons entry list ih => simp [Entries.values, Node.value, ih]
  rw [sectionNodes, ← List.map_reverse, values]

private theorem table_draftNodes (sections : List (String × Table)) :
    (draftNodes sections).table = ofSections sections := by
  have values (list : List (String × Table)) :
      Entries.values (list.map fun part => (part.1, Node.table (sectionNodes part.2))) =
        ofSections list := by
    induction list with
    | nil => simp [Entries.values, ofSections]
    | cons part list ih =>
      simp only [ofSections] at ih ⊢
      simp [Entries.values, Node.value, values_sectionNodes, ih]
  rw [Entries.table, draftNodes, ← List.map_reverse, values]
  simp [ofSections]

private theorem get?_draftNodes_of_not_mem {sections : List (String × Table)} {name : String}
    (new : name ∉ sections.map (·.1)) : (draftNodes sections).get? name = none := by
  simp only [Entries.get?, draftNodes, Option.map_eq_none_iff, List.find?_eq_none, List.mem_reverse,
    List.mem_map]
  rintro entry ⟨part, among, rfl⟩
  have other : part.1 ≠ name := fun same => new (same ▸ List.mem_map_of_mem among)
  simp [other]

private theorem get?_sectionNodes_of_not_mem {entries : Table} {name : String}
    (new : name ∉ entries.map (·.1)) : (sectionNodes entries).get? name = none := by
  simp only [Entries.get?, sectionNodes, Option.map_eq_none_iff, List.find?_eq_none,
    List.mem_reverse, List.mem_map]
  rintro node ⟨entry, among, rfl⟩
  have other : entry.1 ≠ name := fun same => new (same ▸ List.mem_map_of_mem among)
  simp [other]

private theorem draftNodes_concat (sections : List (String × Table)) (part : String × Table) :
    draftNodes (sections ++ [part]) =
      (part.1, Node.table (sectionNodes part.2)) :: draftNodes sections := by
  simp [draftNodes]

private theorem sectionNodes_concat (entries : Table) (entry : String × Value) :
    sectionNodes (entries ++ [entry]) = (entry.1, Node.complete entry.2) :: sectionNodes entries := by
  simp [sectionNodes]

namespace Draft.Holds

variable {draft : Draft} {sections : List (String × Table)} {name : String} {entries : Table}

/-- Nothing above an entry of a section is complete. -/
private theorem not_isSealed (h : draft.Holds sections) (name : String) :
    draft.isSealed [name] = false := by
  simp only [Draft.isSealed, Toml.isSealed, List.any_eq_false]
  intro key among
  have long := h.complete key among
  match key, long with
  | [first, second], _ => simp

private theorem settle (h : draft.Holds sections) : draft.settle.Holds sections := by
  obtain ⟨entries, opened, complete, pending⟩ := h
  refine ⟨entries, ?_, complete, rfl⟩
  simpa [Draft.settle, pending] using opened

/-- A header opens an empty section. -/
private theorem openTable (h : draft.Holds sections) (new : name ∉ sections.map (·.1)) :
    ∃ next, draft.openTable [name] = .ok next ∧ next.Holds (sections ++ [(name, [])]) ∧
      next.header = [name] := by
  have unopened : draft.isOpened [name] = false := by
    rw [Draft.isOpened, List.contains_eq_mem, decide_eq_false_iff_not]
    intro among
    obtain ⟨part, known, same⟩ := h.opened _ among
    obtain rfl : name = part.1 := by simpa using same
    exact new (List.mem_map_of_mem known)
  have changed : Entries.changeAt true .ok [name] draft.entries =
      .ok (draftNodes (sections ++ [(name, [])])) := by
    rw [draftNodes_concat, h.entries]
    simp [Entries.changeAt, get?_draftNodes_of_not_mem new, bind, Except.bind, sectionNodes]
  refine ⟨{ draft with
    entries := draftNodes (sections ++ [(name, [])])
    header := [name]
    opened := [name] :: draft.opened }, ?_, ⟨rfl, ?_, h.complete, h.pending⟩, rfl⟩
  · simp [Draft.openTable, unopened, h.not_isSealed, changed, bind, Except.bind]
  · intro key among
    rcases List.mem_cons.1 among with rfl | among
    · exact ⟨(name, []), by simp, rfl⟩
    · obtain ⟨part, known, same⟩ := h.opened key among
      exact ⟨part, List.mem_append_left _ known, same⟩

/-- An entry is added to the last section. -/
private theorem addEntry (h : draft.Holds (sections ++ [(name, entries)]))
    (header : draft.header = [name]) {entry : String × Value} (new : entry.1 ∉ entries.map (·.1)) :
    ∃ next, draft.addEntry [entry.1] entry.2 = .ok next ∧
      next.Holds (sections ++ [(name, entries ++ [entry])]) ∧ next.header = [name] := by
  have way : Draft.passed [name] [entry.1] = [] := rfl
  have changed : Entries.changeAt true (Entries.add entry.1 (.complete entry.2)) [name]
      draft.entries = .ok (draftNodes (sections ++ [(name, entries ++ [entry])])) := by
    rw [h.entries, draftNodes_concat, draftNodes_concat, sectionNodes_concat]
    simp [Entries.changeAt, Entries.get?_cons_self, Entries.add, get?_sectionNodes_of_not_mem new,
      Entries.replace, bind, Except.bind]
  refine ⟨{ draft with
    entries := draftNodes (sections ++ [(name, entries ++ [entry])])
    complete := if isContainer entry.2 then [name, entry.1] :: draft.complete else draft.complete },
    ?_, ⟨rfl, ?_, ?_, h.pending⟩, header⟩
  · have unsealed := h.not_isSealed name
    simp [Draft.addEntry, way, header, unsealed, changed, bind, Except.bind]
  · intro key among
    obtain ⟨part, known, rfl⟩ := h.opened key among
    rcases List.mem_append.1 known with earlier | last
    · exact ⟨part, List.mem_append_left _ earlier, rfl⟩
    · obtain rfl := List.mem_singleton.1 last
      exact ⟨(name, entries ++ [entry]), by simp, rfl⟩
  · intro key among
    simp only at among
    split at among
    · rcases List.mem_cons.1 among with rfl | among
      · rfl
      · exact h.complete key among
    · exact h.complete key among

end Draft.Holds

/-- The end of a line, where nothing else stands on it. -/
private theorem skipLineEnd_newline (rest : List Char) :
    skipLineEnd ('\n' :: rest) = .ok ('\n' :: rest) := by
  have here : skipSpaces ('\n' :: rest) = '\n' :: rest := rfl
  simp [skipLineEnd, here]

private theorem readLines_blank (bound : Nat) (draft : Draft) (rest : List Char) :
    readLines (bound + 1) draft ('\n' :: rest) = readLines bound draft rest := by
  have here : skipSpaces ('\n' :: rest) = '\n' :: rest := rfl
  simp [readLines, here, skipLineEnd_newline, bind, Except.bind]

private theorem readLines_end (bound : Nat) (draft : Draft) :
    readLines bound draft [] = .ok draft := by
  cases bound with
  | zero => rfl
  | succ bound =>
    have here : skipSpaces [] = [] := rfl
    simp [readLines, here, skipLineEnd, bind, Except.bind]

/-- A line with a statement is read as that statement. -/
private theorem readLines_statement {bound : Nat} {draft next : Draft} {first : Char}
    {more rest : List Char}
    (start : TextForm.isSpace first = false ∧ first ≠ '#' ∧ first ≠ '\n')
    (stated : readStatement (bound + 1) draft (first :: more) = .ok (next, '\n' :: rest)) :
    readLines (bound + 1) draft (first :: more) = readLines bound next rest := by
  have here : skipSpaces (first :: more) = first :: more := by simp [skipSpaces, start.1]
  rw [readLines, here]
  simp only [bind, Except.bind]
  split
  · rename_i same
    cases same
  · rename_i same
    exact absurd (List.cons.inj same).1 start.2.1
  · rename_i same
    exact absurd (List.cons.inj same).1 start.2.2
  · simp [stated, skipLineEnd_newline]

/-- A bare name begins with nothing that begins another line. -/
private theorem start_of_bare {first : Char} (bare : isBareChar first = true) :
    (TextForm.isSpace first = false ∧ first ≠ '#' ∧ first ≠ '\n') ∧ first ≠ '[' := by
  have other (c : Char) (unbare : isBareChar c = false) : first ≠ c := by
    rintro rfl
    rw [unbare] at bare
    cases bare
  have space := other ' ' (by decide)
  have tab := other '\t' (by decide)
  refine ⟨⟨?_, other _ (by decide), other _ (by decide)⟩, other _ (by decide)⟩
  simp [TextForm.isSpace, space, tab]

/-- The line of a header opens its section. -/
private theorem readLines_header (bound : Nat) {draft : Draft} {sections : List (String × Table)}
    {name : String} (bare : IsBare name) (holds : draft.Holds sections)
    (new : name ∉ sections.map (·.1)) (rest : List Char) :
    ∃ next, readLines (bound + 1) draft (headerChars name ++ rest) = readLines bound next rest ∧
      next.Holds (sections ++ [(name, [])]) ∧ next.header = [name] := by
  obtain ⟨next, opened, held, header⟩ := holds.settle.openTable new
  obtain ⟨first, more, chars, start⟩ := bare.toList_eq
  have key : Key.read (bound + 1) (name.toList ++ ']' :: '\n' :: rest) =
      .ok ([name], ']' :: '\n' :: rest) :=
    read_bare bare (Nat.succ_pos bound) (by decide) rfl (by decide)
  have unspaced : skipSpaces (name.toList ++ ']' :: '\n' :: rest) =
      name.toList ++ ']' :: '\n' :: rest := by
    simp [skipSpaces, chars, (start_of_bare start).1.1]
  have stated : readStatement (bound + 1) draft ('[' :: (name.toList ++ ']' :: '\n' :: rest)) =
      .ok (next, '\n' :: rest) := by
    have other := (start_of_bare start).2
    rw [chars, List.cons_append] at key unspaced ⊢
    unfold readStatement
    split
    · rename_i same
      exact absurd (List.cons.inj (List.cons.inj same).2).1 other
    · rename_i same
      rw [← (List.cons.inj same).2]
      simp [readTableHeader, unspaced, key, opened, bind, Except.bind]
    · rename_i missed
      exact absurd rfl (missed _)
  refine ⟨next, ?_, held, header⟩
  have whole : headerChars name ++ rest = '[' :: (name.toList ++ ']' :: '\n' :: rest) := by
    simp [headerChars]
  rw [whole]
  exact readLines_statement ⟨by decide, by decide, by decide⟩ stated

/-- Of different names, each is new to those before it. -/
private theorem not_mem_front {α : Type} {label : α → String} {front back : List α} {a : α}
    (distinct : ((front ++ a :: back).map label).Nodup) : label a ∉ front.map label := by
  rw [List.map_append, List.map_cons, List.nodup_append] at distinct
  exact fun earlier => distinct.2.2 _ earlier _ List.mem_cons_self rfl

/-- The line of an entry adds it to the section. -/
private theorem readLines_entry {bound : Nat} {draft : Draft} {sections : List (String × Table)}
    {name : String} {entries : Table} {entry : String × Value}
    (bare : IsBare entry.1) (plain : IsPlain entry.2)
    (holds : draft.Holds (sections ++ [(name, entries)])) (header : draft.header = [name])
    (new : entry.1 ∉ entries.map (·.1)) {rest : List Char}
    (enough : (lineChars entry ++ rest).length ≤ bound) :
    ∃ next, readLines (bound + 1) draft (lineChars entry ++ rest) = readLines bound next rest ∧
      next.Holds (sections ++ [(name, entries ++ [entry])]) ∧ next.header = [name] := by
  obtain ⟨next, added, held, header⟩ := holds.addEntry header new
  obtain ⟨first, more, chars, start⟩ := bare.toList_eq
  obtain ⟨mark, others, written, marked, -⟩ := plain.written
  have line : lineChars entry ++ rest =
      entry.1.toList ++ ' ' :: '=' :: ' ' :: (mark :: others ++ '\n' :: rest) := by
    simp [lineChars, Printer.entryPiece, bare.keyChars_eq, written]
  have key : Key.read (bound + 1) (lineChars entry ++ rest) =
      .ok ([entry.1], '=' :: ' ' :: (mark :: others ++ '\n' :: rest)) := by
    rw [line]
    exact read_bare bare (Nat.succ_pos bound) (by decide) rfl (by decide)
  have unspaced : skipSpaces (' ' :: (mark :: others ++ '\n' :: rest)) =
      mark :: others ++ '\n' :: rest := by
    rcases marked with rfl | rfl <;> rfl
  have value : readValue (2 * (bound + 1)) nestingRoom (mark :: others ++ '\n' :: rest) =
      .ok (entry.2, '\n' :: rest) := by
    refine readValue_plain plain written ?_ (by decide) _ (by simp)
    rw [line] at enough
    simp only [List.length_append, List.length_cons] at enough ⊢
    omega
  have stated : readStatement (bound + 1) draft (lineChars entry ++ rest) =
      .ok (next, '\n' :: rest) := by
    have other := (start_of_bare start).2
    have entered : readEntry (bound + 1) draft (lineChars entry ++ rest) =
        .ok (next, '\n' :: rest) := by
      simp only [readEntry, key, bind, Except.bind, unspaced, value, added]
    rw [line, chars, List.cons_append] at entered ⊢
    unfold readStatement
    split
    · rename_i same
      exact absurd (List.cons.inj same).1 other
    · rename_i same
      exact absurd (List.cons.inj same).1 other
    · exact entered
  refine ⟨next, ?_, held, header⟩
  rw [line, chars, List.cons_append] at stated ⊢
  exact readLines_statement (start_of_bare start).1 stated

private theorem lineChars_ne_nil {entry : String × Value} (bare : IsBare entry.1)
    (plain : IsPlain entry.2) : 0 < (lineChars entry).length := by
  obtain ⟨first, more, chars, -⟩ := bare.toList_eq
  obtain ⟨mark, others, written, -⟩ := plain.written
  simp [lineChars, Printer.entryPiece, bare.keyChars_eq, chars, written]

/-- The lines of a section add its entries, one after the other. -/
private theorem readLines_entries {bound : Nat} {draft : Draft} {sections : List (String × Table)}
    {name : String} {front back : Table} (plain : IsPlainTable (front ++ back))
    (holds : draft.Holds (sections ++ [(name, front)])) (header : draft.header = [name])
    {rest : List Char} (enough : ((back.map lineChars).flatten ++ rest).length < bound) :
    ∃ next smaller,
      readLines bound draft ((back.map lineChars).flatten ++ rest) = readLines smaller next rest ∧
      next.Holds (sections ++ [(name, front ++ back)]) ∧ rest.length < smaller := by
  -- By induction on the lines to come; the draft holds the entries of those before.
  induction back generalizing bound draft front with
  | nil => exact ⟨draft, bound, rfl, by simpa using holds, by simpa using enough⟩
  | cons entry back ih =>
    have among : entry ∈ front ++ entry :: back := by simp
    have bare := plain.bare entry among
    have nonempty := lineChars_ne_nil bare (plain.plain entry among)
    have new : entry.1 ∉ front.map (·.1) := not_mem_front plain.distinct
    simp only [List.map_cons, List.flatten_cons, List.append_assoc, List.length_append] at enough ⊢
    obtain ⟨bound, rfl⟩ : ∃ smaller, bound = smaller + 1 := ⟨bound - 1, by omega⟩
    have line : (lineChars entry ++ ((back.map lineChars).flatten ++ rest)).length ≤ bound := by
      simp only [List.length_append]
      omega
    have others : ((back.map lineChars).flatten ++ rest).length < bound := by
      simp only [List.length_append]
      omega
    obtain ⟨between, read, held, header⟩ :=
      readLines_entry bare (plain.plain entry among) holds header new line
    rw [List.append_cons] at plain
    obtain ⟨next, smaller, read', held', left⟩ := ih plain held header others
    refine ⟨next, smaller, read.trans read', ?_, left⟩
    rwa [List.append_assoc, List.singleton_append] at held'

/-- The written sections are added one after the other. -/
private theorem readLines_sections {bound : Nat} {draft : Draft}
    {front back : List (String × Table)} (are : AreSections (front ++ back))
    (holds : draft.Holds front) (begun : Bool)
    (enough : (sectionPieces begun back).flatten.length < bound) :
    ∃ next, readLines bound draft (sectionPieces begun back).flatten = .ok next ∧
      next.Holds (front ++ back) := by
  induction back generalizing bound draft front begun with
  | nil => exact ⟨draft, readLines_end bound draft, by simpa using holds⟩
  | cons part back ih =>
    obtain ⟨name, entries⟩ := part
    have among : (name, entries) ∈ front ++ (name, entries) :: back := by simp
    have new : name ∉ front.map (·.1) := not_mem_front are.distinct
    have shifted : front ++ (name, entries) :: back = (front ++ [(name, entries)]) ++ back := by simp
    -- A blank line before the header changes nothing, so the section is read from its header on.
    have headed {bound : Nat} (enough : (headerChars name ++ ((entries.map lineChars).flatten ++
        (sectionPieces true back).flatten)).length < bound) :
        ∃ next, readLines bound draft (headerChars name ++ ((entries.map lineChars).flatten ++
          (sectionPieces true back).flatten)) = .ok next ∧
          next.Holds (front ++ (name, entries) :: back) := by
      have line : (headerChars name).length = name.toList.length + 3 := by simp [headerChars]
      obtain ⟨bound, rfl⟩ : ∃ smaller, bound = smaller + 1 := ⟨bound - 1, by omega⟩
      have body : ((entries.map lineChars).flatten ++ (sectionPieces true back).flatten).length <
          bound := by
        rw [List.length_append, line] at enough
        omega
      have bare : IsBare name := are.bare _ among
      have plain : IsPlainTable ([] ++ entries) := are.plain _ among
      obtain ⟨opened, read, held, header⟩ := readLines_header bound bare holds new
        ((entries.map lineChars).flatten ++ (sectionPieces true back).flatten)
      obtain ⟨filled, smaller, read', held', left⟩ := readLines_entries plain held header body
      rw [List.nil_append] at held'
      rw [shifted] at are ⊢
      obtain ⟨next, read'', held''⟩ := ih are held' true left
      exact ⟨next, (read.trans read').trans read'', held''⟩
    cases begun with
    | false =>
      simp only [sectionPieces] at enough ⊢
      simpa using headed (by simpa using enough)
    | true =>
      have whole : (sectionPieces true ((name, entries) :: back)).flatten =
          '\n' :: (headerChars name ++ ((entries.map lineChars).flatten ++
            (sectionPieces true back).flatten)) := by
        simp [sectionPieces]
      rw [whole] at enough ⊢
      obtain ⟨bound, rfl⟩ : ∃ smaller, bound = smaller + 1 := ⟨bound - 1, by omega⟩
      rw [readLines_blank]
      exact headed (by simpa using enough)

private theorem return_not_mem_line {entry : String × Value} (bare : IsBare entry.1)
    (plain : IsPlain entry.2) : '\r' ∉ lineChars entry := by
  obtain ⟨mark, others, written, -, absent⟩ := plain.written
  have name : '\r' ∉ entry.1.toList := fun among => absurd (bare.chars _ among) (by decide)
  simp only [lineChars, Printer.entryPiece, bare.keyChars_eq, written]
  simp_all

private theorem return_not_mem_sections {sections : List (String × Table)}
    (bare : ∀ part ∈ sections, IsBare part.1) (plain : ∀ part ∈ sections, IsPlainTable part.2)
    (begun : Bool) : '\r' ∉ (sectionPieces begun sections).flatten := by
  induction sections generalizing begun with
  | nil => simp [sectionPieces]
  | cons part sections ih =>
    obtain ⟨bareHere, bareThere⟩ := List.forall_mem_cons.1 bare
    obtain ⟨plainHere, plainThere⟩ := List.forall_mem_cons.1 plain
    have rest := ih bareThere plainThere true
    have name : '\r' ∉ part.1.toList := fun among => absurd (bareHere.chars _ among) (by decide)
    have lines : '\r' ∉ (part.2.map lineChars).flatten := by
      simp only [List.mem_flatten, List.mem_map]
      rintro ⟨line, ⟨entry, among, rfl⟩, held⟩
      exact return_not_mem_line (plainHere.bare entry among) (plainHere.plain entry among) held
    cases begun <;> simp only [sectionPieces] <;> simp_all [headerChars]

private theorem withPlainNewlines_eq {chars : List Char} (absent : '\r' ∉ chars) :
    withPlainNewlines chars = chars := by
  induction chars with
  | nil => rfl
  | cons c chars ih =>
    obtain ⟨other, absent⟩ := not_or.1 (mt List.mem_cons.2 absent)
    unfold withPlainNewlines
    split
    · rename_i same
      cases same
    · rename_i same
      exact absurd (List.cons.inj same).1.symm other
    · rename_i same
      rw [← (List.cons.inj same).1, ← (List.cons.inj same).2, ih absent]

/-- A table of sections is read from a document as it was written to it. -/
theorem read_write {sections : List (String × Table)} (are : AreSections sections) :
    read (write (ofSections sections)).text = .ok (ofSections sections) := by
  have begun : Draft.Holds {} [] := ⟨rfl, nofun, nofun, rfl⟩
  have plain := withPlainNewlines_eq (return_not_mem_sections are.bare are.plain false)
  have whole : AreSections ([] ++ sections) := are
  obtain ⟨draft, made, holds⟩ :=
    readLines_sections whole begun false (Nat.lt_succ_self (sectionPieces false sections).flatten.length)
  rw [write_sections are, read]
  simp only [String.toList_ofList, plain, made, Except.map]
  rw [holds.entries, List.nil_append, table_draftNodes]

end ContainerLogs.Toml
