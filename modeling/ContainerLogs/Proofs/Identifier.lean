import ContainerLogs.Identifier
import ContainerLogs.Proofs.Path
import ContainerLogs.Proofs.Text.Numeral

/-!
The text forms of identifiers as names: they are names that a directory can hold.
-/
namespace ContainerLogs

open ContainerLogs.Path (PlainPart)

/-- A character that a written number has. -/
def Text.IsNumeric (c : Char) : Prop := c.isDigit = true ∨ c = '-'

theorem Text.isNumeric_of_mem_padded {width : Nat} {n : Int} {c : Char}
    (among : c ∈ paddedChars width n) : IsNumeric c := by
  cases n with
  | ofNat n => exact .inl (isDigit_of_mem_padLeft among)
  | negSucc n =>
    rcases List.mem_cons.1 among with rfl | among
    · exact .inr rfl
    · exact .inl (isDigit_of_mem_padLeft among)

private theorem Text.slash_not_mem_padded (width : Nat) (n : Int) : '/' ∉ paddedChars width n := by
  intro among
  rcases isNumeric_of_mem_padded among with digit | sign
  · exact absurd digit (by decide)
  · exact absurd sign (by decide)

/-- Fields that are joined by underscores hold no slash if none of them does. -/
private theorem Text.slash_not_mem_field {front back : List Char} (before : '/' ∉ front)
    (after : '/' ∉ back) : '/' ∉ front ++ '_' :: back := by
  have mark : '/' ≠ '_' := by decide
  simp [before, after, mark]

theorem ApplicationId.plainPart_text (id : ApplicationId) : PlainPart id.text := by
  have word : '/' ∉ "application_".toList := by decide
  have stamped : '/' ∉ "application_".toList ++ Text.decimalChars id.clusterTimestamp :=
    fun among => (List.mem_append.1 among).elim word (Text.slash_not_mem_padded 1 _)
  exact Path.plainPart_ofList (List.append_ne_nil_of_right_ne_nil _ (List.cons_ne_nil _ _))
    (Text.slash_not_mem_field stamped (Text.slash_not_mem_padded 4 id.number))

theorem ContainerId.plainPart_text (id : ContainerId) : PlainPart id.text := by
  have word : '/' ∉ "container_".toList := by decide
  have epoch : '/' ∉ epochChars id.epoch := by
    cases id.epoch <;> simp [epochChars, Text.slash_not_mem_padded]
  have stamped : '/' ∉ "container_".toList ++ epochChars id.epoch ++
      Text.decimalChars id.application.clusterTimestamp := by
    intro among
    rcases List.mem_append.1 among with among | among
    · exact (List.mem_append.1 among).elim word epoch
    · exact Text.slash_not_mem_padded 1 _ among
  have counted := Text.slash_not_mem_field stamped
    (Text.slash_not_mem_padded 4 id.application.number)
  have attempted := Text.slash_not_mem_field counted (Text.slash_not_mem_padded 2 id.attempt)
  exact Path.plainPart_ofList (List.append_ne_nil_of_right_ne_nil _ (List.cons_ne_nil _ _))
    (Text.slash_not_mem_field attempted (Text.slash_not_mem_padded 6 id.number))

end ContainerLogs
