import ContainerLogs.Text.Blank
import Mathlib.Data.List.TakeWhile

/-! What trimming takes away from a text, and what it leaves. -/
namespace ContainerLogs.Text

variable {drop : Char → Bool} {text : List Char}

/-- Trimming takes nothing away but what is dropped. -/
private theorem mem_trimBy {c : Char} (among : c ∈ text) (kept : drop c = false) :
    c ∈ trimBy drop text := by
  have survives {text : List Char} (among : c ∈ text) : c ∈ text.dropWhile drop := by
    rw [← List.takeWhile_append_dropWhile (p := drop) (l := text)] at among
    rcases List.mem_append.1 among with dropped | left
    · rw [List.mem_takeWhile_imp dropped] at kept
      cases kept
    · exact left
  rw [trimBy, List.mem_reverse]
  exact survives (List.mem_reverse.2 (survives among))

private theorem trimBy_eq_nil_iff : trimBy drop text = [] ↔ ∀ c ∈ text, drop c = true := by
  constructor
  · intro nothing c among
    by_contra kept
    have left := mem_trimBy among (by simpa using kept)
    rw [nothing] at left
    cases left
  · intro all
    simp [trimBy, List.dropWhile_eq_nil_iff.2 all]

/-- What is left of a text after trimming is not blank. -/
theorem trimBy_trimBy_ne_nil (hasChars : trimBy drop text ≠ []) :
    trimBy drop (trimBy drop text) ≠ [] := by
  have : ¬ ∀ c ∈ text, drop c = true := mt trimBy_eq_nil_iff.2 hasChars
  simp only [not_forall, Bool.not_eq_true] at this
  obtain ⟨c, among, kept⟩ := this
  exact List.ne_nil_of_mem (mem_trimBy (mem_trimBy among kept) kept)

/-- What is left of a text after trimming begins with what is not dropped. -/
theorem kept_of_head?_trimBy {c : Char} (starts : (trimBy drop text).head? = some c) :
    drop c = false := by
  have front : trimBy drop text <+: text.dropWhile drop := by
    have back := List.dropWhile_suffix (l := (text.dropWhile drop).reverse) drop
    simpa [trimBy] using List.reverse_prefix.2 back
  obtain ⟨back, whole⟩ := front
  have first := List.head?_dropWhile_not drop text
  rw [← whole, List.head?_append, starts] at first
  exact first

private theorem dropWhile_of_head (kept : ∀ c, text.head? = some c → drop c = false) :
    text.dropWhile drop = text := by
  cases text with
  | nil => rfl
  | cons c text => rw [List.dropWhile_cons_of_neg (by simp [kept c rfl])]

/-- A text that neither begins nor ends with anything to drop is left as it is. -/
theorem trimBy_eq_self (first : ∀ c, text.head? = some c → drop c = false)
    (last : ∀ c, text.getLast? = some c → drop c = false) : trimBy drop text = text := by
  rw [trimBy, dropWhile_of_head first, dropWhile_of_head, List.reverse_reverse]
  intro c ends
  rw [List.head?_reverse] at ends
  exact last c ends

/-- What is trimmed away stands around what is left. -/
theorem exists_around (drop : Char → Bool) (text : List Char) : ∃ front back,
    (∀ c ∈ front, drop c = true) ∧ (∀ c ∈ back, drop c = true) ∧
      text = front ++ trimBy drop text ++ back := by
  let rest := (text.dropWhile drop).reverse
  have front : text.takeWhile drop ++ text.dropWhile drop = text := List.takeWhile_append_dropWhile
  have back : rest.takeWhile drop ++ rest.dropWhile drop = rest := List.takeWhile_append_dropWhile
  refine ⟨text.takeWhile drop, (rest.takeWhile drop).reverse, ?_, ?_, ?_⟩
  · intro c among
    exact List.mem_takeWhile_imp among
  · intro c among
    exact List.mem_takeWhile_imp (List.mem_reverse.1 among)
  · have whole : trimBy drop text ++ (rest.takeWhile drop).reverse = text.dropWhile drop := by
      show (rest.dropWhile drop).reverse ++ _ = _
      rw [← List.reverse_append, back, List.reverse_reverse]
    rw [List.append_assoc, whole, front]

/-- What stands around a text that neither begins nor ends with anything to drop is trimmed away. -/
theorem trimBy_around {front core back : List Char} (before : ∀ c ∈ front, drop c = true)
    (after : ∀ c ∈ back, drop c = true) (first : ∀ c, core.head? = some c → drop c = false)
    (last : ∀ c, core.getLast? = some c → drop c = false) (nonempty : core ≠ []) :
    trimBy drop (front ++ core ++ back) = core := by
  obtain ⟨start, begins⟩ := Option.isSome_iff_exists.1 (List.isSome_head?.2 nonempty)
  have starts : (core ++ back).dropWhile drop = core ++ back := by
    apply dropWhile_of_head
    intro c here
    apply first
    rw [List.head?_append, begins] at here
    rw [begins]
    exact here
  have ends : core.reverse.dropWhile drop = core.reverse := by
    apply dropWhile_of_head
    intro c begins
    apply last
    rwa [List.head?_reverse] at begins
  have after' : ∀ c ∈ back.reverse, drop c = true := by
    intro c among
    exact after c (List.mem_reverse.1 among)
  rw [trimBy, List.append_assoc, List.dropWhile_append_of_pos before, starts, List.reverse_append,
    List.dropWhile_append_of_pos after', ends, List.reverse_reverse]

end ContainerLogs.Text
