/-!
# Blanks

The characters with the Unicode property White_Space, and what is cut away by them: `trim` drops
them from both ends of a text and `words` splits a text at every run of them.
-/

set_option autoImplicit false

namespace ThrowawayServer.Text

/-- The 25 characters with the Unicode property White_Space. -/
def isBlank (c : Char) : Bool :=
  let n := c.toNat
  (9 ≤ n && n ≤ 13) || n == 0x20 || n == 0x85 || n == 0xA0 || n == 0x1680 ||
    (0x2000 ≤ n && n ≤ 0x200A) || n == 0x2028 || n == 0x2029 || n == 0x202F || n == 0x205F ||
    n == 0x3000

/-- A text without the characters at its start that satisfy `p`. -/
def trimStartBy (p : Char → Bool) (text : List Char) : List Char :=
  text.dropWhile p

/-- A text without the characters at its end that satisfy `p`. -/
def trimEndBy (p : Char → Bool) (text : List Char) : List Char :=
  (text.reverse.dropWhile p).reverse

/-- A text without the characters at either end that satisfy `p`. -/
def trimBy (p : Char → Bool) (text : List Char) : List Char :=
  trimEndBy p (trimStartBy p text)

/-- A text without the blanks at either end. -/
def trim (text : List Char) : List Char :=
  trimBy isBlank text

/-- The maximal runs of characters that are not blank. -/
def words (text : List Char) : List (List Char) :=
  let rec go : List Char → List Char → List (List Char)
    | [], word => if word.isEmpty then [] else [word.reverse]
    | c :: rest, word =>
      if isBlank c then
        if word.isEmpty then go rest [] else word.reverse :: go rest []
      else go rest (c :: word)
  go text []

end ThrowawayServer.Text
