/-!
Blank characters and trimming. A character is blank when it has the Unicode property White_Space;
trimming removes the longest runs of matching characters from both ends and nothing in between.
-/

namespace GameSheet.Text

def isBlank (c : Char) : Bool :=
  let code := c.toNat
  (9 ≤ code && code ≤ 13) || code == 0x20 || code == 0x85 || code == 0xA0 || code == 0x1680 ||
    (0x2000 ≤ code && code ≤ 0x200A) || code == 0x2028 || code == 0x2029 || code == 0x202F ||
    code == 0x205F || code == 0x3000

def dropEnd (drop : Char → Bool) (chars : List Char) : List Char :=
  (chars.reverse.dropWhile drop).reverse

def trimEnds (drop : Char → Bool) (chars : List Char) : List Char :=
  dropEnd drop (chars.dropWhile drop)

def skipBlank (chars : List Char) : List Char := chars.dropWhile isBlank

def trim (chars : List Char) : List Char := trimEnds isBlank chars

end GameSheet.Text
