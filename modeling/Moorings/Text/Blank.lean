/-!
# White space around a text

`trim` takes white space from both ends of a text. White space is the Unicode
property of that name, which is wider than the ASCII blanks: it has the
no-break space, the spaces of various widths, the line and paragraph
separators and the ideographic space in it, and leaves out the zero-width
ones.
-/

namespace Moorings.Text

/-- The code points of white space, as closed ranges in rising order. -/
def blankRanges : List (Nat × Nat) :=
  [(0x9, 0xD), (0x20, 0x20), (0x85, 0x85), (0xA0, 0xA0), (0x1680, 0x1680),
   (0x2000, 0x200A), (0x2028, 0x2029), (0x202F, 0x202F), (0x205F, 0x205F),
   (0x3000, 0x3000)]

/-- Whether a character is white space. -/
def isBlank (c : Char) : Bool :=
  blankRanges.any fun (first, last) => first ≤ c.toNat && c.toNat ≤ last

/-- What is left of the characters without the white space at both ends. -/
def trimList (chars : List Char) : List Char :=
  ((chars.dropWhile isBlank).reverse.dropWhile isBlank).reverse

/-- A text without the white space at its ends. -/
def trim (text : String) : String :=
  String.ofList (trimList text.toList)

end Moorings.Text
