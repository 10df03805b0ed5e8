import ContainerLogs.Floating
import ContainerLogs.Text.Quoted

/-!
Settings as they are written, before they are checked: texts, numbers, truth values and moments in
lists and tables.
-/
namespace ContainerLogs.Settings

inductive Value where
  | null
  | truth (value : Bool)
  | integer (value : Int)
  | real (value : Floating)
  | moment (written : String)
  | text (value : String)
  | list (items : List Value)
  | table (entries : List (String × Value))
  deriving Inhabited, Repr

namespace Value

mutual

/-- A value as messages show it, texts in quotes. -/
def chars : Value → List Char
  | null => "None".toList
  | truth true => "True".toList
  | truth false => "False".toList
  | integer value => Text.decimalChars value
  | real value => value.chars
  | moment written => written.toList
  | text value => Text.quotedChars value.toList
  | list items => '[' :: itemChars items ++ [']']
  | table entries => '\x7b' :: entryChars entries ++ ['\x7d']

def itemChars : List Value → List Char
  | [] => []
  | [item] => item.chars
  | item :: rest => item.chars ++ ", ".toList ++ itemChars rest

def entryChars : List (String × Value) → List Char
  | [] => []
  | [(name, value)] => Text.quotedChars name.toList ++ ": ".toList ++ value.chars
  | (name, value) :: rest =>
      Text.quotedChars name.toList ++ ": ".toList ++ value.chars ++ ", ".toList ++ entryChars rest

end

def shown (value : Value) : String := String.ofList value.chars

/-- A value as text: a text is itself. -/
def plain : Value → String
  | text value => value
  | value => value.shown

/-- A value as a whole number; truth values count as one and zero, and fractions are dropped. -/
def whole? : Value → Option Int
  | truth value => some (if value then 1 else 0)
  | integer value => some value
  | real value => value.whole?
  | _ => none

/-- A value as a whole number without loss. -/
def index? : Value → Option Int
  | truth value => some (if value then 1 else 0)
  | integer value => some value
  | _ => none

/-- A value as a number that may have a fraction, unless it is too large for one. -/
def floating? : Value → Option Floating
  | real value => some value
  | value => do
      let index ← value.index?
      match Floating.ofDecimal (index < 0) index.natAbs 0 with
      | .finite negative units => some (.finite negative units)
      | _ => none

end Value

/-- The entries of a table. -/
abbrev Table := List (String × Value)

namespace Table

def get? (table : Table) (name : String) : Option Value :=
  (table.find? (·.1 = name)).map (·.2)

/-- Sets an entry, in its old place if there is one. -/
def set (table : Table) (name : String) (value : Value) : Table :=
  if table.any (·.1 = name) then
    table.map fun entry => if entry.1 = name then (name, value) else entry
  else table ++ [(name, value)]

@[simp] theorem get?_set_self (table : Table) (name : String) (value : Value) :
    (table.set name value).get? name = some value := by
  induction table with
  | nil => simp [set, get?]
  | cons entry rest ih =>
      obtain ⟨other, held⟩ := entry
      by_cases same : other = name
      · simp [set, get?, same]
      · simp only [get?, set, List.any_cons, same, decide_false, Bool.false_or] at ih ⊢
        split at ih <;> rename_i present <;> simp_all

end Table

end ContainerLogs.Settings
