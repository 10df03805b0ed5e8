import ContainerLogs.Service.Address
import ContainerLogs.Proofs.Service.Port

/-!
The form of service addresses. An address is a host, or a host and a port behind the last colon; a
text is read as the address that it spells between its blanks. An address that was read is printed as
a text that is read as that address again, whatever the default port is then.
-/
namespace ContainerLogs.ServiceAddress

open Text (IsShort PortForm decimalChars trimChars)

/-- The form of an address, where a port that is not given has a default. -/
inductive Form (defaultPort : Int) : List Char → ServiceAddress → Prop where
  | bare {host : List Char} (named : host ≠ []) (single : ':' ∉ host) :
      Form defaultPort host ⟨String.ofList host, defaultPort⟩
  | ported {host port : List Char} {n : Int} (named : host ≠ []) (numbered : PortForm port n) :
      Form defaultPort (host ++ ':' :: port) ⟨String.ofList host, n⟩

variable {text : String} {chars front back host port : List Char} {defaultPort n : Int}
  {address : ServiceAddress}

theorem splitAtLastColon?_append (front : List Char) (last : ':' ∉ back) :
    splitAtLastColon? (front ++ ':' :: back) = some (front, back) := by
  have nothing {text : List Char} (absent : ':' ∉ text) : splitAtLastColon? text = none := by
    induction text with
    | nil => rfl
    | cons c text ih =>
      obtain ⟨other, absent⟩ := not_or.1 (mt List.mem_cons.2 absent)
      rw [splitAtLastColon?, ih absent]
      exact if_neg (Ne.symm other)
  induction front with
  | nil => rw [List.nil_append, splitAtLastColon?, nothing last, if_pos rfl]
  | cons c front ih => rw [List.cons_append, splitAtLastColon?, ih]

/-- A text without a colon is in one piece; any other falls into pieces at its last colon. -/
theorem splitAtLastColon?_cases (text : List Char) :
    (':' ∉ text ∧ splitAtLastColon? text = none) ∨
      ∃ front back, text = front ++ ':' :: back ∧ ':' ∉ back ∧
        splitAtLastColon? text = some (front, back) := by
  induction text with
  | nil => exact .inl ⟨List.not_mem_nil, rfl⟩
  | cons c text ih =>
    rcases ih with ⟨absent, unsplit⟩ | ⟨front, back, rfl, last, -⟩
    · by_cases colon : c = ':'
      · subst colon
        exact .inr ⟨[], text, rfl, absent, splitAtLastColon?_append [] absent⟩
      · left
        refine ⟨mt List.mem_cons.1 (not_or.2 ⟨Ne.symm colon, absent⟩), ?_⟩
        rw [splitAtLastColon?, unsplit]
        exact if_neg colon
    · exact .inr ⟨c :: front, back, rfl, last, splitAtLastColon?_append (c :: front) last⟩

/-- A text is read as the address that it spells. -/
theorem parse_eq_ok_iff :
    parse text defaultPort = .ok address ↔ Form defaultPort (trimChars text.toList) address := by
  unfold parse
  generalize trimChars text.toList = chars
  constructor
  · intro read
    dsimp only at read
    split at read
    · cases read
    rename_i hasChars
    replace hasChars : chars ≠ [] := by simpa using hasChars
    rcases splitAtLastColon?_cases chars with ⟨absent, parts⟩ | ⟨front, back, rfl, -, parts⟩
    · rw [parts] at read
      cases read
      exact .bare hasChars absent
    · simp only [parts] at read
      split at read
      · cases read
      rename_i named
      split at read
      · rename_i n number
        cases read
        exact .ported (by simpa using named) (Text.integer_eq_ok_iff.1 number)
      · cases read
  · intro form
    cases form with
    | bare named absent =>
      rcases splitAtLastColon?_cases chars with ⟨-, parts⟩ | ⟨front, back, rfl, -, -⟩
      · simp [named, parts]
      · simp at absent
    | ported named numbered =>
      rename_i host port n
      have parts := splitAtLastColon?_append host numbered.colon_not_mem
      simp [named, parts, Text.integer_eq_ok_iff.2 numbered]

private theorem Form.host_ne_nil (form : Form defaultPort chars address) :
    address.host.toList ≠ [] := by
  cases form with
  | bare named => simpa using named
  | ported named => simpa using named

/-- The host stands at the front of the text. -/
private theorem Form.host_prefix (form : Form defaultPort chars address) :
    address.host.toList <+: chars := by
  cases form with
  | bare => simp
  | ported => simp

/-- A port that was read, or that is not too long to be printed, can be read. -/
private theorem Form.isShort (form : Form defaultPort chars address) (short : IsShort defaultPort) :
    IsShort address.port := by
  cases form with
  | bare => exact short
  | ported _ numbered => exact numbered.isShort

private theorem toList_text (address : ServiceAddress) :
    address.text.toList = address.host.toList ++ ':' :: decimalChars address.port := by
  simp [ServiceAddress.text, Text.decimal]

/-- An address whose host begins with no blank is read from the text that it is printed as. -/
private theorem parse_text (named : address.host.toList ≠ [])
    (starts : ∀ c, address.host.toList.head? = some c → Text.isBlank c = false)
    (short : IsShort address.port) (defaultPort : Int) :
    parse address.text defaultPort = .ok address := by
  rw [parse_eq_ok_iff, toList_text]
  obtain ⟨c, first⟩ := Option.isSome_iff_exists.1 (List.isSome_head?.2 named)
  have untrimmed := Text.trimChars_of_word first (starts c first) [':'] 1 address.port
  have form : Form defaultPort _ _ := .ported named (Text.portForm_decimalChars short)
  rw [String.ofList_toList] at form
  rw [← List.singleton_append, decimalChars, untrimmed]
  exact form

/-- The host is the text up to its last colon, or all of it if there is none. -/
private theorem Form.host_eq (form : Form defaultPort chars address) :
    (':' ∉ chars → address.host.toList = chars) ∧
      ∀ front back, chars = front ++ ':' :: back → ':' ∉ back → address.host.toList = front := by
  cases form with
  | bare named single =>
    refine ⟨fun _ => by simp, ?_⟩
    rintro front back rfl
    simp at single
  | ported named numbered =>
    rename_i host port n
    refine ⟨fun single => by simp at single, ?_⟩
    intro front back same last
    have parts := splitAtLastColon?_append host numbered.colon_not_mem
    rw [same, splitAtLastColon?_append front last] at parts
    cases parts
    simp

/-- Printing an address and reading it gives it back, whatever the default port is then; and the host
is the trimmed text, or what stands before its last colon. -/
theorem reread_of_parse (short : IsShort defaultPort)
    (read : parse text defaultPort = .ok address) :
    (∀ other, parse address.text other = .ok address) ∧ address.host ≠ "" ∧
      (':' ∉ text.toList → address.host = Text.trim text) ∧
      ∀ front back, trimChars text.toList = front ++ ':' :: back → ':' ∉ back →
        address.host = String.ofList front := by
  have form := parse_eq_ok_iff.1 read
  obtain ⟨whole, part⟩ := form.host_eq
  refine ⟨fun other => ?_, ?_, fun absent => ?_, fun front back same last => ?_⟩
  · apply parse_text form.host_ne_nil _ (form.isShort short)
    intro c first
    obtain ⟨rest, starts⟩ := form.host_prefix
    have begins : (trimChars text.toList).head? = some c := by
      rw [← starts, List.head?_append, first]
      rfl
    exact Text.kept_of_head?_trimBy begins
  · intro empty
    exact form.host_ne_nil (by rw [empty]; rfl)
  · obtain ⟨front, back, -, -, around⟩ := Text.exists_around Text.isBlank text.toList
    have absent' : ':' ∉ trimChars text.toList := by
      intro among
      apply absent
      rw [around]
      simp [show ':' ∈ Text.trimBy Text.isBlank text.toList from among]
    rw [Text.trim, ← whole absent', String.ofList_toList]
  · rw [← part front back same last, String.ofList_toList]

/-- Blanks around the text and before the port, colons in the host, a sign, digits of another script
and an underscore between them. -/
theorem reread_liberal_port : IsShort 8032 ∧
    parse "\u2003[::1] : +٨_٠\n" 8032 = .ok ⟨"[::1] ", 80⟩ ∧
      ∀ other, parse "[::1] :80" other = .ok ⟨"[::1] ", 80⟩ := by
  have short : IsShort 8032 := by decide
  have read : parse "\u2003[::1] : +٨_٠\n" 8032 = .ok ⟨"[::1] ", 80⟩ := by decide +kernel
  exact ⟨short, read, (reread_of_parse short read).1⟩

end ContainerLogs.ServiceAddress
