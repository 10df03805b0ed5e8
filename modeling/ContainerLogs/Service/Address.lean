import ContainerLogs.Text.Numeral
import ContainerLogs.Text.Quoted

/-!
Network addresses written `host[:port]`. The last colon separates the port; without one the port is
a given default. The host is whatever stands before it, colons and blanks included.
-/
namespace ContainerLogs

structure ServiceAddress where
  host : String
  port : Int
  deriving DecidableEq, Repr

inductive AddressFault where
  | empty
  | missingHost (text : String)
  | invalidPort (text : String)
  deriving DecidableEq, Repr

namespace AddressFault

def message : AddressFault → String
  | .empty => "Empty service address"
  | .missingHost text => "Missing host in service address: " ++ Text.quoted text
  | .invalidPort text => "Invalid port in service address: " ++ Text.quoted text

end AddressFault

namespace ServiceAddress

def text (address : ServiceAddress) : String :=
  address.host ++ ":" ++ Text.decimal address.port

/-- The parts before and after the last colon. -/
def splitAtLastColon? : List Char → Option (List Char × List Char)
  | [] => none
  | c :: rest =>
      match splitAtLastColon? rest with
      | some (host, port) => some (c :: host, port)
      | none => if c = ':' then some ([], rest) else none

def parse (text : String) (defaultPort : Int) : Except AddressFault ServiceAddress :=
  let trimmed := Text.trimChars text.toList
  if trimmed.isEmpty then .error .empty
  else match splitAtLastColon? trimmed with
    | none => .ok ⟨String.ofList trimmed, defaultPort⟩
    | some (host, port) =>
        if host.isEmpty then .error (.missingHost (String.ofList trimmed))
        else match Text.integer port with
          | .ok n => .ok ⟨String.ofList host, n⟩
          | .error _ => .error (.invalidPort (String.ofList trimmed))

end ServiceAddress

end ContainerLogs
