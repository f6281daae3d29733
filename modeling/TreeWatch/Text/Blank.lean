/-!
# White space

The characters that separate words in any script, and the text that is left when they are
cut off at both ends.
-/

namespace TreeWatch.Text

/-- A character of the white space class: the ASCII blanks, the four ASCII information
separators, and the spaces and separators beyond ASCII. -/
def isBlank (c : Char) : Bool :=
  let n := c.toNat
  (9 ≤ n && n ≤ 13) || (28 ≤ n && n ≤ 32) || n == 0x85 || n == 0xa0 || n == 0x1680 ||
    (0x2000 ≤ n && n ≤ 0x200a) || n == 0x2028 || n == 0x2029 || n == 0x202f || n == 0x205f ||
    n == 0x3000

/-- A blank of ASCII as number texts know it. The information separators are not among
them. -/
def isNumberBlank (c : Char) : Bool :=
  let n := c.toNat
  n == 32 || (9 ≤ n && n ≤ 13)

def trimBy (blank : Char → Bool) (cs : List Char) : List Char :=
  ((cs.dropWhile blank).reverse.dropWhile blank).reverse

def trim (s : String) : String :=
  String.ofList (trimBy isBlank s.toList)

def lowerAscii (s : String) : String :=
  s.map Char.toLower

end TreeWatch.Text
