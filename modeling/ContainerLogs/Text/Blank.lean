/-!
Blank characters and trimming. `isBlank` is the Unicode white space property together with the four
information separators, and trimming removes blanks at both ends only.
-/
namespace ContainerLogs.Text

def isBlank (c : Char) : Bool :=
  let n := c.toNat
  (9 ≤ n ∧ n ≤ 13) ∨ (28 ≤ n ∧ n ≤ 32) ∨ n = 0x85 ∨ n = 0xA0 ∨ n = 0x1680 ∨
    (0x2000 ≤ n ∧ n ≤ 0x200A) ∨ n = 0x2028 ∨ n = 0x2029 ∨ n = 0x202F ∨ n = 0x205F ∨ n = 0x3000

/-- Removes what `drop` picks from both ends. -/
def trimBy (drop : Char → Bool) (text : List Char) : List Char :=
  ((text.dropWhile drop).reverse.dropWhile drop).reverse

def trimChars (text : List Char) : List Char := trimBy isBlank text

def trim (text : String) : String := String.ofList (trimChars text.toList)

end ContainerLogs.Text
