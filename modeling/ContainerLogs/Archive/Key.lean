import ContainerLogs.Identifier
import ContainerLogs.Text.Utf8

/-!
Keys of archive records. A key names the container a record belongs to, or nothing yet; two names
are set aside for the records that describe the archive itself and are never written as keys.
-/
namespace ContainerLogs.Archive

def versionName : String := "VERSION"
def ownerName : String := "APPLICATION_OWNER"

def isReserved (name : String) : Bool := name = versionName ∨ name = ownerName

structure Key where
  container : Option String := none
  deriving DecidableEq, Repr

inductive KeyFault where
  | empty
  | reserved (name : String)
  /-- Bytes that are not the UTF-8 form of a text. -/
  | undecodable
  deriving DecidableEq, Repr

def KeyFault.message : KeyFault → String
  | empty => "Cannot serialize an empty ContainerLogKey"
  | reserved name => Text.quoted name ++ " is reserved for archive metadata"
  | undecodable => "The key is not valid UTF-8"

namespace Key

def ofContainer (id : ContainerId) : Key := ⟨some id.text⟩

def bytes (key : Key) : Except KeyFault Bytes :=
  match key.container with
  | none => .error .empty
  | some name => if isReserved name then .error (.reserved name) else .ok (Text.Utf8.encode name)

/-- Takes the name over from its bytes; ill-formed bytes leave the key as it is. -/
def load (bytes : Bytes) : EStateM KeyFault Key Unit := fun key =>
  match Text.Utf8.decode? bytes with
  | some name => .ok () ⟨some name⟩
  | none => .error .undecodable key

def text (key : Key) : String := key.container.getD ""

end Key

end ContainerLogs.Archive
