import ContainerLogs.Console.EmojiTable
import ContainerLogs.Text.Blank

/-!
Emoji by their names. A name stands between colons, without blanks; it may end in a request to show
the emoji as text or as a picture. Names that are not known stay as they are.
-/
namespace ContainerLogs.Console.Emoji

/-- The small form of the capital letters that names can be written with. -/
def smallLetter (c : Char) : Char :=
  match c with
  | 'Ã' => 'ã'
  | 'Å' | '\u212b' => 'å'
  | 'Ç' => 'ç'
  | 'É' => 'é'
  | 'Í' => 'í'
  | 'Ô' => 'ô'
  | '\u212a' => 'k'
  | c => c.toLower

/-- The characters that ask for one of two looks, by what stands at the end of a name. -/
def looks : List (List Char × Char) :=
  [("-text".toList, '\ufe0e'), ("-emoji".toList, '\ufe0f')]

/-- The name and the look that stand between two colons. -/
def nameAndLook (code : List Char) : List Char × List Char :=
  match looks.find? fun look => look.1.isSuffixOf code with
  | some (ending, selector) => (code.take (code.length - ending.length), [selector])
  | none => (code, [])

/-- What a code between two colons shows, the colons with it if it is not known. -/
def shown (code : List Char) : List Char :=
  let (name, look) := nameAndLook code
  match ofName? (String.ofList (name.map smallLetter)) with
  | some emoji => emoji.toList ++ look
  | none => ':' :: code ++ [':']

def isCodeChar (c : Char) : Bool := c ≠ ':' ∧ ¬ Text.isBlank c

/-- A text with emoji in place of their names. -/
def replaceNames : List Char → List Char
  | [] => []
  | c :: rest =>
      if c = ':' then
        match _ended : rest.dropWhile isCodeChar with
        | ':' :: after => shown (rest.takeWhile isCodeChar) ++ replaceNames after
        | _ => c :: replaceNames rest
      else c :: replaceNames rest
termination_by text => text.length
decreasing_by
  · have := (List.dropWhile_sublist isCodeChar (l := rest)).length_le
    rw [_ended] at this
    simp only [List.length_cons] at this ⊢
    omega
  · simp
  · simp

end ContainerLogs.Console.Emoji
