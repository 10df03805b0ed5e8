import ContainerLogs.Text.Quoted
import ContainerLogs.Text.Numeral

/-!
What can go wrong while bytes are read: the bytes end before a declared length is met, they do not
follow the layout, or their source was closed before.
-/
namespace ContainerLogs

inductive ReadFault where
  /-- A stream ended before as many bytes came as were wanted. -/
  | streamEnded (wanted given : Nat)
  /-- An archive ended inside the value of a record. -/
  | valueEnded (unread length : Nat)
  | negativeLength (what : String) (length : Int)
  | negativeContent (length : Int) (name : String)
  | negativeKey (length : Int) (archive : String)
  | negativeValue (length : Int) (archive : String)
  | undecodableKey (archive : String)
  | malformedVersion (archive : String)
  /-- A value was read after its archive was closed. -/
  | sourceClosed
  /-- A record was asked of an archive that was closed. -/
  | archiveClosed (archive : String)
  deriving DecidableEq, Repr

namespace ReadFault

/-- Whether the bytes ended too early. -/
def isPremature : ReadFault → Bool
  | streamEnded .. | valueEnded .. => true
  | _ => false

/-- Whether the bytes are at fault: they end too early or do not follow the layout. -/
def isCorrupt : ReadFault → Bool
  | sourceClosed | archiveClosed _ => false
  | _ => true

def message : ReadFault → String
  | streamEnded wanted given =>
      "Expected " ++ Text.decimal wanted ++ " bytes but the stream ended after " ++
        Text.decimal given
  | valueEnded unread length =>
      "Archive ended with " ++ Text.decimal unread ++ " of " ++ Text.decimal length ++
        " value bytes unread"
  | negativeLength what length => "Negative " ++ what ++ " length: " ++ Text.decimal length
  | negativeContent length name =>
      "Negative log length " ++ Text.decimal length ++ " for " ++ name
  | negativeKey length archive =>
      "Negative key length " ++ Text.decimal length ++ " in " ++ archive
  | negativeValue length archive =>
      "Negative value length " ++ Text.decimal length ++ " in " ++ archive
  | undecodableKey archive => "Undecodable record key in " ++ archive
  | malformedVersion archive => "Malformed VERSION record in " ++ archive
  | sourceClosed => "readinto of closed file"
  | archiveClosed archive => "Archive reader for " ++ archive ++ " is closed"

end ReadFault

end ContainerLogs
