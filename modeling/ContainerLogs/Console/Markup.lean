import ContainerLogs.Console.Emoji
import ContainerLogs.Text.Blank

/-!
Marked-up text. A tag is a name in brackets that starts with a small letter, `#`, `/` or `@`; what
stands between an opening tag and its closing tag is styled, and the tags themselves are not shown.
Backslashes before a tag stand for half as many, and an odd one among them makes the tag plain text.
In the text between tags, names of emoji stand for the emoji.
-/
namespace ContainerLogs.Console.Markup

/-- What a marked-up text is made of. -/
inductive Piece where
  | plain (text : List Char)
  | opening (name : List Char)
  /-- A closing tag; without a name it closes whatever was opened last. -/
  | closing (name : List Char)
  deriving DecidableEq, Repr

inductive Fault where
  /-- A closing tag that nothing was opened for. -/
  | unmatched (name : String)
  deriving DecidableEq, Repr

def Fault.message : Fault → String
  | unmatched name => "closing tag '[/" ++ name ++ "]' doesn't match any open tag"

def startsTag (c : Char) : Bool := ('a' ≤ c ∧ c ≤ 'z') ∨ c = '#' ∨ c = '/' ∨ c = '@'

def isBracket (c : Char) : Bool := c = '[' ∨ c = ']'

/-- The inside of a tag whose first bracket was just read, and what follows the tag. -/
def tagBody? : List Char → Option (List Char × List Char)
  | [] => none
  | c :: rest =>
      if startsTag c then
        match rest.dropWhile (¬ isBracket ·) with
        | ']' :: after => some (c :: rest.takeWhile (¬ isBracket ·), after)
        | _ => none
      else none

theorem length_of_tagBody? {text body after : List Char}
    (found : tagBody? text = some (body, after)) : after.length < text.length := by
  match text with
  | [] => simp [tagBody?] at found
  | c :: rest =>
      simp only [tagBody?] at found
      split at found
      · split at found
        · rename_i tail remains
          obtain ⟨_, rfl⟩ := Prod.mk.inj (Option.some.inj found)
          have bound := (List.dropWhile_sublist (p := (¬ isBracket ·)) (l := rest)).length_le
          rw [remains] at bound
          simp only [List.length_cons] at bound ⊢
          omega
        · cases found
      · cases found

/-- Takes the backslash from brackets that are no tag's. -/
def unescape : List Char → List Char
  | '\\' :: '[' :: rest => '[' :: unescape rest
  | c :: rest => c :: unescape rest
  | [] => []

def plainPiece (text : List Char) : List Piece :=
  if text.isEmpty then [] else [.plain text]

def normalName (name : List Char) : List Char := (Text.trimChars name).map Char.toLower

/-- What stands in a tag before its parameters names it. -/
def tag (body : List Char) : Piece :=
  match body.takeWhile (· ≠ '=') with
  | '/' :: name => .closing (normalName name)
  | name => .opening (normalName name)

/-- The pieces that a tag ends, with the text before it in reverse. -/
def endText (before body : List Char) : List Piece :=
  let escapes := (before.takeWhile (· = '\\')).length
  plainPiece (unescape (before.dropWhile (· = '\\')).reverse) ++
    plainPiece (List.replicate (escapes / 2) '\\') ++
    [if escapes % 2 = 1 then .plain ('[' :: body ++ [']']) else tag body]

/-- The pieces of a text that comes after other text, which is given in reverse. -/
def piecesAfter (before : List Char) : List Char → List Piece
  | [] => plainPiece (unescape before.reverse)
  | c :: rest =>
      if c = '[' then
        match _found : tagBody? rest with
        | some (body, after) => endText before body ++ piecesAfter [] after
        | none => piecesAfter (c :: before) rest
      else piecesAfter (c :: before) rest
termination_by text => text.length
decreasing_by
  · have := length_of_tagBody? _found
    simp only [List.length_cons]
    omega
  · simp
  · simp

def pieces (markup : List Char) : List Piece := piecesAfter [] markup

/-- The text of the pieces, with the names of the tags that are open before them, the last one
first. -/
def textOf : (opened : List (List Char)) → List Piece → Except Fault (List Char)
  | _, [] => .ok []
  | opened, .plain text :: rest => (textOf opened rest).map (Emoji.replaceNames text ++ ·)
  | opened, .opening name :: rest => textOf (name :: opened) rest
  | [], .closing name :: _ => .error (.unmatched (String.ofList name))
  | last :: opened, .closing name :: rest =>
      if name.isEmpty then textOf opened rest
      else if name ∈ last :: opened then textOf ((last :: opened).erase name) rest
      else .error (.unmatched (String.ofList name))

/-- Controls that a terminal would act on: bell, backspace, vertical tab, form feed and carriage
return. -/
def isTerminalControl (c : Char) : Bool :=
  c.toNat = 7 ∨ c.toNat = 8 ∨ (11 ≤ c.toNat ∧ c.toNat ≤ 13)

/-- What a marked-up text shows. -/
def shown (markup : String) : Except Fault (List Char) :=
  (textOf [] (pieces markup.toList)).map fun text => text.filter (¬ isTerminalControl ·)

end ContainerLogs.Console.Markup
