/-!
Terminal control sequences: the escape character with a bracket, then parameters, then intermediate
characters, and one final character. They are taken out of text that may go elsewhere than to a
terminal.
-/
namespace ContainerLogs.Console

def isEscapeParameter (c : Char) : Bool := '0' ≤ c ∧ c ≤ '?'

def isEscapeIntermediate (c : Char) : Bool := ' ' ≤ c ∧ c ≤ '/'

def isEscapeFinal (c : Char) : Bool := '@' ≤ c ∧ c ≤ '~'

/-- What comes after a control sequence whose parameters start here, if it is complete. -/
def afterEscape? (text : List Char) : Option (List Char) :=
  match (text.dropWhile isEscapeParameter).dropWhile isEscapeIntermediate with
  | final :: rest => if isEscapeFinal final then some rest else none
  | [] => none

theorem length_afterEscape? {text rest : List Char} (ended : afterEscape? text = some rest) :
    rest.length < text.length := by
  unfold afterEscape? at ended
  have shorter := (((List.dropWhile_sublist isEscapeIntermediate).trans
    (List.dropWhile_sublist isEscapeParameter)).length_le :
      ((text.dropWhile isEscapeParameter).dropWhile isEscapeIntermediate).length ≤ text.length)
  split at ended
  · rename_i final after front
    rw [front, List.length_cons] at shorter
    split at ended
    · cases ended
      omega
    · cases ended
  · cases ended

/-- Takes out all escape sequences. -/
def withoutEscapes : List Char → List Char
  | '\x1b' :: '[' :: rest =>
      match _ended : afterEscape? rest with
      | some rest => withoutEscapes rest
      | none => '\x1b' :: withoutEscapes ('[' :: rest)
  | c :: rest => c :: withoutEscapes rest
  | [] => []
termination_by text => text.length
decreasing_by
  · have := length_afterEscape? _ended
    simp only [List.length_cons]
    omega
  · simp
  · simp

end ContainerLogs.Console
