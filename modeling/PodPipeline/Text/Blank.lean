/-! White space as Unicode defines it, and text that holds nothing else. -/
namespace PodPipeline.Text

/-- The code points with the property White_Space, as closed ranges. -/
def whiteSpaceRanges : List (Nat × Nat) :=
  [(0x09, 0x0D), (0x20, 0x20), (0x85, 0x85), (0xA0, 0xA0), (0x1680, 0x1680), (0x2000, 0x200A),
    (0x2028, 0x2029), (0x202F, 0x202F), (0x205F, 0x205F), (0x3000, 0x3000)]

def isWhite (c : Char) : Bool :=
  whiteSpaceRanges.any fun r => r.1 ≤ c.toNat && c.toNat ≤ r.2

/-- A blank text is empty or all white space. -/
def isBlank (s : String) : Bool := s.toList.all isWhite

/-- What is left of a text without the white space at its two ends. -/
def trim (s : List Char) : List Char :=
  ((s.dropWhile isWhite).reverse.dropWhile isWhite).reverse

theorem isBlank_empty : isBlank "" = true := by decide

end PodPipeline.Text
