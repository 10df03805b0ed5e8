import ContainerLogs.Service.Address
import ContainerLogs.Settings.Basic

/-!
Protocols of the cluster's managing service and the addresses that serve them.
-/
namespace ContainerLogs

inductive ServiceProtocol where
  | client | admin | scheduler
  deriving DecidableEq, Repr

namespace ServiceProtocol

def name : ServiceProtocol → String
  | client => "client" | admin => "admin" | scheduler => "scheduler"

def all : List ServiceProtocol := [client, admin, scheduler]

def defaultPort : ServiceProtocol → Int
  | client => 8032 | admin => 8033 | scheduler => 8030

def ofName? (text : String) : Option ServiceProtocol := all.find? (·.name = text)

/-- Reads a protocol from a written value; only its exact name will do. -/
def ofValue? : Settings.Value → Option ServiceProtocol
  | .text name => ofName? name
  | _ => none

def unsupportedMessage (value : Settings.Value) : String :=
  "Unsupported protocol for the managing service: " ++ value.shown

end ServiceProtocol

namespace ClusterSettings

def addressText (cluster : ClusterSettings) : ServiceProtocol → String
  | .client => cluster.address
  | .admin => cluster.adminAddress
  | .scheduler => cluster.schedulerAddress

def serviceAddress (cluster : ClusterSettings) (protocol : ServiceProtocol) :
    Except AddressFault ServiceAddress :=
  ServiceAddress.parse (cluster.addressText protocol) protocol.defaultPort

end ClusterSettings

inductive ResolveFault where
  | unsupported (protocol : Settings.Value)
  | address (fault : AddressFault)

/-- The address that serves a protocol, and the addresses that tokens are bound to anew: those of
the scheduler, once found. -/
def resolveService (cluster : ClusterSettings) (protocol : Settings.Value) :
    Except ResolveFault ServiceAddress × List ServiceAddress :=
  match ServiceProtocol.ofValue? protocol with
  | none => (.error (.unsupported protocol), [])
  | some known =>
      match cluster.serviceAddress known with
      | .error fault => (.error (.address fault), [])
      | .ok address => (.ok address, if known = .scheduler then [address] else [])

def ResolveFault.message : ResolveFault → String
  | unsupported protocol => ServiceProtocol.unsupportedMessage protocol
  | address fault => fault.message

end ContainerLogs
