import ContainerLogs.CommandLine.Fault
import ContainerLogs.Proofs.Service.Address

/-!
Which ports are resolved. What is configured as the address of a service is refused if it names no
host or if what stands behind its last colon does not spell a number, and then nobody hears of an
address. A number that is spelled is taken for the port, though, whether a port can have it or not: so
an address is resolved to what is no port exactly if the number behind its colon is none.
-/
namespace ContainerLogs

open Text (PortForm trimChars)

/-- The numbers that ports have. -/
def IsPort (n : Int) : Prop := 0 ≤ n ∧ n ≤ 65535

instance (n : Int) : Decidable (IsPort n) := inferInstanceAs (Decidable (_ ∧ _))

namespace ServiceAddress

/-- The texts that are no address, and what is wrong with them. -/
inductive Refused : List Char → AddressFault → Prop where
  | empty : Refused [] .empty
  | hostless {port : List Char} (last : ':' ∉ port) :
      Refused (':' :: port) (.missingHost (String.ofList (':' :: port)))
  | portless {host port : List Char} (named : host ≠ []) (last : ':' ∉ port)
      (unread : ∀ n, ¬ PortForm port n) :
      Refused (host ++ ':' :: port) (.invalidPort (String.ofList (host ++ ':' :: port)))

/-- A text whose port is spelled as a number that no port has. -/
def Overreaches (text : List Char) : Prop :=
  ∃ host port n, text = host ++ ':' :: port ∧ host ≠ [] ∧ PortForm port n ∧ ¬ IsPort n

variable {text : String} {chars : List Char} {defaultPort : Int} {address : ServiceAddress}
  {fault : AddressFault}

/-- What is no address is refused for that. -/
private theorem parse_of_refused (refused : Refused (trimChars text.toList) fault) :
    parse text defaultPort = .error fault := by
  unfold parse
  generalize trimChars text.toList = chars at refused
  cases refused with
  | empty => rfl
  | @hostless port last =>
    have parts := splitAtLastColon?_append [] last
    rw [List.nil_append] at parts
    simp [parts]
  | @portless host port named last unread =>
    have parts := splitAtLastColon?_append host last
    cases read : Text.integer port with
    | ok n => exact absurd (Text.integer_eq_ok_iff.1 read) (unread n)
    | error cause => simp [named, parts, read]

/-- Every text is an address or is refused. -/
private theorem form_or_refused (chars : List Char) (defaultPort : Int) :
    (∃ address, Form defaultPort chars address) ∨ ∃ fault, Refused chars fault := by
  rcases splitAtLastColon?_cases chars with ⟨single, -⟩ | ⟨host, port, rfl, last, -⟩
  · by_cases named : chars = []
    · subst named
      exact .inr ⟨_, .empty⟩
    · exact .inl ⟨_, .bare named single⟩
  · by_cases named : host = []
    · subst named
      exact .inr ⟨_, .hostless last⟩
    · by_cases spelled : ∃ n, PortForm port n
      · obtain ⟨n, spelled⟩ := spelled
        exact .inl ⟨_, .ported named spelled⟩
      · exact .inr ⟨_, .portless named last (not_exists.1 spelled)⟩

/-- Beside a default that is one, only a number that was given can be no port. -/
private theorem Form.isPort_iff (form : Form defaultPort chars address)
    (sound : IsPort defaultPort) :
    IsPort address.port ↔ ¬ Overreaches chars := by
  cases form with
  | bare named single =>
    refine ⟨fun _ => ?_, fun _ => sound⟩
    rintro ⟨host, port, n, rfl, -⟩
    simp at single
  | @ported host port n named numbered =>
    constructor
    · rintro within ⟨host', port', n', same, -, numbered', beyond⟩
      have parts := splitAtLastColon?_append host numbered.colon_not_mem
      rw [same, splitAtLastColon?_append host' numbered'.colon_not_mem] at parts
      cases parts
      exact beyond (numbered'.unique numbered ▸ within)
    · intro within
      by_contra beyond
      exact within ⟨host, port, n, rfl, named, numbered, beyond⟩

end ServiceAddress

open ServiceAddress (Form Overreaches Refused)

private theorem ServiceProtocol.isPort_defaultPort (protocol : ServiceProtocol) :
    IsPort protocol.defaultPort := by
  cases protocol <;> decide

private theorem ServiceProtocol.ofValue?_name (protocol : ServiceProtocol) :
    ofValue? (.text protocol.name) = some protocol := by
  cases protocol <;> rfl

/-- The addresses that tokens are bound to when a protocol is resolved to one. -/
def ServiceProtocol.bound (protocol : ServiceProtocol) (address : ServiceAddress) :
    List ServiceAddress :=
  if protocol = .scheduler then [address] else []

namespace ClusterSettings

/-- What is configured for a protocol, without the blanks around it. -/
def configured (cluster : ClusterSettings) (protocol : ServiceProtocol) : List Char :=
  trimChars (cluster.addressText protocol).toList

variable {cluster : ClusterSettings} {protocol : ServiceProtocol} {address : ServiceAddress}
  {fault : AddressFault}

private theorem resolveService_of_form
    (form : Form protocol.defaultPort (cluster.configured protocol) address) :
    resolveService cluster (.text protocol.name) = (.ok address, protocol.bound address) := by
  have read := ServiceAddress.parse_eq_ok_iff.2 form
  simp [resolveService, protocol.ofValue?_name, serviceAddress, read, ServiceProtocol.bound]

private theorem resolveService_of_refused (refused : Refused (cluster.configured protocol) fault) :
    resolveService cluster (.text protocol.name) = (.error (.address fault), []) := by
  have unread : cluster.serviceAddress protocol = .error fault :=
    ServiceAddress.parse_of_refused refused
  simp [resolveService, protocol.ofValue?_name, unread]

/-- A service is resolved to an address, of which tokens then hear, or its address is refused as a
fault of the configuration, and then they hear of none: so is every text that ends in what spells no
number. The port is one that ports can have unless the number behind the colon is none. -/
theorem resolve_strays_iff (cluster : ClusterSettings) (protocol : ServiceProtocol) :
    ((∃ address, resolveService cluster (.text protocol.name) =
          (.ok address, protocol.bound address) ∧ ¬ IsPort address.port) ↔
        Overreaches (cluster.configured protocol)) ∧
      ((∃ address, resolveService cluster (.text protocol.name) =
          (.ok address, protocol.bound address)) ∨
        ∃ fault, resolveService cluster (.text protocol.name) = (.error (.address fault), []) ∧
          (CommandLine.Fault.service (.address fault)).category? = some .configuration) ∧
      ∀ host port, cluster.configured protocol = host ++ ':' :: port → ':' ∉ port →
        (∀ n, ¬ PortForm port n) →
          ∃ fault, resolveService cluster (.text protocol.name) = (.error (.address fault), []) := by
  have sound := protocol.isPort_defaultPort
  refine ⟨⟨?_, ?_⟩, ?_, ?_⟩
  · rintro ⟨address, resolved, beyond⟩
    rcases ServiceAddress.form_or_refused (cluster.configured protocol) protocol.defaultPort with
      ⟨address', form⟩ | ⟨fault, refused⟩
    · rw [resolveService_of_form form] at resolved
      cases resolved
      by_contra within
      exact beyond ((form.isPort_iff sound).2 within)
    · rw [resolveService_of_refused refused] at resolved
      cases resolved
  · rintro ⟨host, port, n, same, named, numbered, beyond⟩
    have form : Form protocol.defaultPort (cluster.configured protocol) ⟨String.ofList host, n⟩ :=
      same ▸ .ported named numbered
    exact ⟨_, resolveService_of_form form, beyond⟩
  · rcases ServiceAddress.form_or_refused (cluster.configured protocol) protocol.defaultPort with
      ⟨address, form⟩ | ⟨fault, refused⟩
    · exact .inl ⟨address, resolveService_of_form form⟩
    · exact .inr ⟨fault, resolveService_of_refused refused, rfl⟩
  · intro host port same last unread
    by_cases named : host = []
    · rw [named, List.nil_append] at same
      have refused : Refused (cluster.configured protocol) _ := same ▸ Refused.hostless last
      exact ⟨_, resolveService_of_refused refused⟩
    · have refused : Refused (cluster.configured protocol) _ :=
        same ▸ Refused.portless named last unread
      exact ⟨_, resolveService_of_refused refused⟩

/-- A number beyond the ports, of which tokens hear, and one below them. -/
theorem resolved_to_no_port :
    resolveService { schedulerAddress := "h:65536" } (.text "scheduler") =
        (.ok ⟨"h", 65536⟩, [⟨"h", 65536⟩]) ∧
      resolveService { address := "h:-1" } (.text "client") = (.ok ⟨"h", -1⟩, []) ∧
      ¬ IsPort 65536 ∧ ¬ IsPort (-1) := by
  refine ⟨rfl, rfl, ?_, ?_⟩ <;> decide

end ClusterSettings

end ContainerLogs
