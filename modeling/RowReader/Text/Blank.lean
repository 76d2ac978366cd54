/-!
# Blanks

Two sets of blank characters are in use.  `isBlank` holds the characters that separate words in
running text, which includes the four information separators U+001C to U+001F.  `isWhiteSpace`
is the Unicode property of that name, which leaves those four out.
-/

namespace RowReader
namespace Text

/-- The Unicode property `White_Space`. -/
def isWhiteSpace (c : Char) : Bool :=
  let code := c.toNat
  (0x9 ≤ code && code ≤ 0xd) || code == 0x20 || code == 0x85 || code == 0xa0 || code == 0x1680
    || (0x2000 ≤ code && code ≤ 0x200a) || code == 0x2028 || code == 0x2029 || code == 0x202f
    || code == 0x205f || code == 0x3000

/-- White space together with the information separators. -/
def isBlank (c : Char) : Bool :=
  isWhiteSpace c || (0x1c ≤ c.toNat && c.toNat ≤ 0x1f)

/-- Drops the longest run of characters in the class from the end. -/
def dropEndWhile (inClass : Char → Bool) (cs : List Char) : List Char :=
  (cs.reverse.dropWhile inClass).reverse

/-- Drops the longest runs of characters in the class from both ends. -/
def trimWhile (inClass : Char → Bool) (cs : List Char) : List Char :=
  dropEndWhile inClass (cs.dropWhile inClass)

/-- A line without the blanks at its end. -/
def trimEnd (line : String) : String :=
  String.ofList (dropEndWhile isBlank line.toList)

end Text
end RowReader
