import ContainerLogs.Text.Numeral
import ContainerLogs.Text.Quoted

/-!
Application and container identifiers. Their text forms are

* `application_<cluster timestamp>_<number>`
* `container_[e<epoch>_]<cluster timestamp>_<application>_<attempt>_<number>`

Reading trims the text and takes digits of any script and any width; writing pads the numbers.
-/
namespace ContainerLogs

structure ApplicationId where
  clusterTimestamp : Int
  number : Int
  deriving DecidableEq, Repr

structure ContainerId where
  application : ApplicationId
  attempt : Int
  number : Int
  epoch : Option Int := none
  deriving DecidableEq, Repr

inductive IdentifierFault where
  | notApplication (text : String)
  | notContainer (text : String)
  /-- A field with more digits than a number is read from. -/
  | oversizedField
  deriving DecidableEq, Repr

namespace IdentifierFault

def message : IdentifierFault → String
  | .notApplication text => "Invalid application id: " ++ Text.quoted text
  | .notContainer text => "Invalid container id: " ++ Text.quoted text
  | .oversizedField => "A field of the id has too many digits"

end IdentifierFault

/-- The number in a field, whose digits were recognised before. -/
def fieldNumber (digits : List Nat) : Except IdentifierFault Int :=
  match Text.valueWithin digits with
  | .ok n => .ok (n : Int)
  | .error _ => .error .oversizedField

namespace ApplicationId

def chars (id : ApplicationId) : List Char :=
  "application_".toList ++ Text.decimalChars id.clusterTimestamp ++
    '_' :: Text.paddedChars 4 id.number

def text (id : ApplicationId) : String := String.ofList id.chars

/-- The digit runs of an application identifier: timestamp and number. -/
def fields? (text : List Char) : Option (List Nat × List Nat) :=
  match List.splitOn '_' (Text.trimChars text) with
  | [word, timestamp, number] => do
      guard (word = "application".toList)
      pure (← Text.digitRun? timestamp, ← Text.digitRun? number)
  | _ => none

def parse (text : String) : Except IdentifierFault ApplicationId :=
  match fields? text.toList with
  | none => .error (.notApplication text)
  | some (timestamp, number) => do
      pure ⟨← fieldNumber timestamp, ← fieldNumber number⟩

end ApplicationId

namespace ContainerId

def epochChars : Option Int → List Char
  | none => []
  | some epoch => 'e' :: Text.paddedChars 2 epoch ++ ['_']

def chars (id : ContainerId) : List Char :=
  "container_".toList ++ epochChars id.epoch ++
    Text.decimalChars id.application.clusterTimestamp ++
    '_' :: Text.paddedChars 4 id.application.number ++
    '_' :: Text.paddedChars 2 id.attempt ++
    '_' :: Text.paddedChars 6 id.number

def text (id : ContainerId) : String := String.ofList id.chars

/-- The digit runs of a container identifier. -/
structure Fields where
  epoch : Option (List Nat)
  timestamp : List Nat
  application : List Nat
  attempt : List Nat
  number : List Nat

def fields? (text : List Char) : Option Fields :=
  match List.splitOn '_' (Text.trimChars text) with
  | [word, timestamp, application, attempt, number] => do
      guard (word = "container".toList)
      pure ⟨none, ← Text.digitRun? timestamp, ← Text.digitRun? application,
        ← Text.digitRun? attempt, ← Text.digitRun? number⟩
  | [word, 'e' :: epoch, timestamp, application, attempt, number] => do
      guard (word = "container".toList)
      pure ⟨some (← Text.digitRun? epoch), ← Text.digitRun? timestamp,
        ← Text.digitRun? application, ← Text.digitRun? attempt, ← Text.digitRun? number⟩
  | _ => none

def parse (text : String) : Except IdentifierFault ContainerId :=
  match fields? text.toList with
  | none => .error (.notContainer text)
  | some fields => do
      let application : ApplicationId :=
        ⟨← fieldNumber fields.timestamp, ← fieldNumber fields.application⟩
      let attempt ← fieldNumber fields.attempt
      let number ← fieldNumber fields.number
      let epoch ← fields.epoch.mapM fieldNumber
      pure ⟨application, attempt, number, epoch⟩

end ContainerId

end ContainerLogs
