import ContainerLogs.Json.Text
import ContainerLogs.Text.Numeral

/-!
JSON documents and their two written forms: on one line, and over several lines with two blanks for
each level of depth.
-/
namespace ContainerLogs.Json

inductive Document where
  | text (value : String)
  | number (value : Int)
  | list (items : List Document)
  | object (fields : List (String × Document))

namespace Document

def indent (depth : Nat) : List Char := '\n' :: List.replicate (2 * depth) ' '

mutual

/-- The form on one line. -/
def line : Document → List Char
  | text value => textChars value.toList
  | number value => Text.decimalChars value
  | list items => '[' :: lineItems items ++ [']']
  | object fields => '\x7b' :: lineFields fields ++ ['\x7d']

def lineItems : List Document → List Char
  | [] => []
  | [item] => item.line
  | item :: rest => item.line ++ ", ".toList ++ lineItems rest

def lineFields : List (String × Document) → List Char
  | [] => []
  | [(name, value)] => textChars name.toList ++ ": ".toList ++ value.line
  | (name, value) :: rest =>
      textChars name.toList ++ ": ".toList ++ value.line ++ ", ".toList ++ lineFields rest

end

mutual

/-- The form over several lines, at a depth. -/
def block (depth : Nat) : Document → List Char
  | text value => textChars value.toList
  | number value => Text.decimalChars value
  | list [] => ['[', ']']
  | list items => '[' :: blockItems (depth + 1) items ++ indent depth ++ [']']
  | object [] => ['\x7b', '\x7d']
  | object fields => '\x7b' :: blockFields (depth + 1) fields ++ indent depth ++ ['\x7d']

def blockItems (depth : Nat) : List Document → List Char
  | [] => []
  | [item] => indent depth ++ item.block depth
  | item :: rest => indent depth ++ item.block depth ++ ',' :: blockItems depth rest

def blockFields (depth : Nat) : List (String × Document) → List Char
  | [] => []
  | [(name, value)] => indent depth ++ textChars name.toList ++ ": ".toList ++ value.block depth
  | (name, value) :: rest =>
      indent depth ++ textChars name.toList ++ ": ".toList ++ value.block depth ++
        ',' :: blockFields depth rest

end

def oneLine (document : Document) : String := String.ofList document.line

def indented (document : Document) : String := String.ofList (document.block 0)

end Document

end ContainerLogs.Json
