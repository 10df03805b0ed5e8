import ContainerLogs.Proofs.Toml.Value
import Mathlib.Data.List.TakeWhile

/-!
The written form of a table of sections, each with texts and lists of texts under bare names. Every
section is written under its header, after a blank line if it is not the first, with an entry on
every line; nothing is left out.
-/
namespace ContainerLogs.Toml

open Settings (Value Table)
open Printer

/-- A table that holds texts and lists of texts under different bare names. -/
structure IsPlainTable (entries : Table) : Prop where
  bare : ∀ entry ∈ entries, IsBare entry.1
  plain : ∀ entry ∈ entries, IsPlain entry.2
  distinct : (entries.map (·.1)).Nodup

namespace IsPlainTable

theorem nil : IsPlainTable [] := ⟨nofun, nofun, .nil⟩

theorem cons {name : String} {value : Value} {entries : Table} (bare : IsBare name)
    (plain : IsPlain value) (fresh : name ∉ entries.map (·.1)) (others : IsPlainTable entries) :
    IsPlainTable ((name, value) :: entries) where
  bare := List.forall_mem_cons.2 ⟨bare, others.bare⟩
  plain := List.forall_mem_cons.2 ⟨plain, others.plain⟩
  distinct := List.nodup_cons.2 ⟨fresh, others.distinct⟩

end IsPlainTable

/-- A table that holds tables only. -/
def ofSections (sections : List (String × Table)) : Table :=
  sections.map fun part => (part.1, .table part.2)

/-- Sections under different bare names. -/
structure AreSections (sections : List (String × Table)) : Prop where
  bare : ∀ part ∈ sections, IsBare part.1
  plain : ∀ part ∈ sections, IsPlainTable part.2
  distinct : (sections.map (·.1)).Nodup

namespace AreSections

theorem nil : AreSections [] := ⟨nofun, nofun, .nil⟩

theorem cons {name : String} {entries : Table} {sections : List (String × Table)}
    (bare : IsBare name) (plain : IsPlainTable entries) (fresh : name ∉ sections.map (·.1))
    (others : AreSections sections) : AreSections ((name, entries) :: sections) where
  bare := List.forall_mem_cons.2 ⟨bare, others.bare⟩
  plain := List.forall_mem_cons.2 ⟨plain, others.plain⟩
  distinct := List.nodup_cons.2 ⟨fresh, others.distinct⟩

end AreSections

/-- The line of an entry. -/
def lineChars (entry : String × Value) : List Char := (entryPiece entry.1 entry.2).getD []

def headerChars (name : String) : List Char := '[' :: name.toList ++ [']', '\n']

/-- The written form of sections. With `begun`, something was written before them. -/
def sectionPieces : (begun : Bool) → List (String × Table) → List (List Char)
  | _, [] => []
  | begun, (name, entries) :: rest =>
      (if begun then [['\n']] else []) ++ headerChars name :: entries.map lineChars ++
        sectionPieces true rest

section Plain

variable {entries : Table} (plain : ∀ entry ∈ entries, IsPlain entry.2)
include plain

private theorem isHeaded_plain {entry : String × Value} (among : entry ∈ entries) :
    isHeaded entry.2 = false := by
  simp [isHeaded, (plain entry among).isHeaded?]

private theorem unsettled_plain : unsettled entries = [] := by
  have settled : ∀ entry ∈ entries, (isHeaded? entry.2).isSome = true := by
    intro entry among
    simp [(plain entry among).isHeaded?]
  rw [unsettled, if_pos (List.all_eq_true.2 settled)]

private theorem plainPieces_plain : plainPieces entries = (entries.map lineChars).map some := by
  have kept : entries.filter (fun entry => ¬ isHeaded entry.2) = entries := by
    refine List.filter_eq_self.2 fun entry among => ?_
    simp [isHeaded_plain plain among]
  rw [plainPieces, kept, List.map_map]
  refine List.map_congr_left fun entry among => ?_
  obtain ⟨first, more, written, -⟩ := (plain entry among).written
  simp [lineChars, entryPiece, written]

private theorem hasHeader_plain : hasHeader entries = true := by
  cases entries with
  | nil => rfl
  | cons entry entries =>
    simp [hasHeader, isHeaded_plain plain List.mem_cons_self]

private theorem headedPieces_plain {entry : String × Value} (among : entry ∈ entries)
    (key : List Char) (begun : Bool) : headedPieces key begun entry.2 = [] := by
  have headed := (plain entry among).isHeaded?
  cases shape : entry.2 with
  | list items =>
    rw [shape] at headed
    have unlisted : isTableList? items = some false := headed
    simp [headedPieces, unlisted]
  | table => rw [shape] at headed; cases headed
  | null | truth | integer | real | moment | text => simp [headedPieces]

private theorem tablePieces_plain (key : List Char) (begun : Bool) :
    tablePieces key begun entries = [] := by
  induction entries generalizing begun with
  | nil => simp [tablePieces]
  | cons entry entries ih =>
    have here := headedPieces_plain plain List.mem_cons_self (keyBelow key entry.1) begun
    have there := ih (fun other among => plain other (List.mem_cons_of_mem _ among))
    simp [tablePieces, here, there]

end Plain

private theorem tablePieces_sections {sections : List (String × Table)}
    (bare : ∀ part ∈ sections, IsBare part.1) (plain : ∀ part ∈ sections, IsPlainTable part.2)
    (begun : Bool) :
    tablePieces [] begun (ofSections sections) = (sectionPieces begun sections).map some := by
  induction sections generalizing begun with
  | nil => simp [ofSections, tablePieces, sectionPieces]
  | cons part sections ih =>
    obtain ⟨bareHere, bareThere⟩ := List.forall_mem_cons.1 bare
    obtain ⟨plainHere, plainThere⟩ := List.forall_mem_cons.1 plain
    have rest := ih bareThere plainThere true
    have headed : isHeaded (.table part.2) = true := rfl
    have key : keyBelow [] part.1 = part.1.toList := bareHere.keyChars_eq
    have unsettled := unsettled_plain plainHere.plain
    have lines := plainPieces_plain plainHere.plain
    have header := hasHeader_plain plainHere.plain
    have below := tablePieces_plain plainHere.plain part.1.toList true
    rw [ofSections] at rest ⊢
    cases begun <;>
      simp [tablePieces, headedPieces, sectionPieces, headed, key, unsettled, lines, header, below,
        rest, gap, headerChars]

/-- Sections are written from the first to the last. -/
theorem write_sections {sections : List (String × Table)} (are : AreSections sections) :
    write (ofSections sections) =
      ⟨String.ofList (sectionPieces false sections).flatten, true⟩ := by
  have headed : ∀ entry ∈ ofSections sections, isHeaded? entry.2 = some true := by
    intro entry among
    obtain ⟨part, -, rfl⟩ := List.mem_map.1 among
    rfl
  have settled : unsettled (ofSections sections) = [] := by
    rw [unsettled, if_pos]
    refine List.all_eq_true.2 fun entry among => ?_
    simp [headed entry among]
  have noLines : plainPieces (ofSections sections) = [] := by
    rw [plainPieces, List.map_eq_nil_iff, List.filter_eq_nil_iff]
    intro entry among
    simp [isHeaded, headed entry among]
  have unbegun : (ofSections sections).any (fun entry => ¬ isHeaded entry.2) = false := by
    rw [List.any_eq_false]
    intro entry among
    simp [isHeaded, headed entry among]
  have whole : pieces (ofSections sections) = (sectionPieces false sections).map some := by
    rw [pieces, settled, noLines, unbegun]
    exact tablePieces_sections are.bare are.plain false
  have all : ∀ piece ∈ (sectionPieces false sections).map some, piece.isSome = true := by simp
  have kept : ((sectionPieces false sections).map some).takeWhile Option.isSome =
      (sectionPieces false sections).map some := List.takeWhile_eq_self_iff.2 all
  simp only [write, whole, kept, List.all_eq_true.2 all, List.flatMap_map, Option.getD_some,
    List.flatMap_id']

end ContainerLogs.Toml
