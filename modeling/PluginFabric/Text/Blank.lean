/-! Blank characters and trimming.

    A character is blank when it has the Unicode property White_Space; the ten ranges below are that
    property. Trimming removes blanks from both ends of a text and none from its middle. -/

namespace PluginFabric.Text

/-- The code points with the property White_Space, as closed ranges. -/
def blankRanges : List (Nat × Nat) :=
  [(0x09, 0x0D), (0x20, 0x20), (0x85, 0x85), (0xA0, 0xA0), (0x1680, 0x1680), (0x2000, 0x200A),
    (0x2028, 0x2029), (0x202F, 0x202F), (0x205F, 0x205F), (0x3000, 0x3000)]

def isBlank (c : Char) : Bool :=
  blankRanges.any fun r => decide (r.1 ≤ c.toNat) && decide (c.toNat ≤ r.2)

/-- Drops the blanks at the front. -/
def trimStart (cs : List Char) : List Char := cs.dropWhile isBlank

/-- Drops the blanks at the back. -/
def trimEnd (cs : List Char) : List Char := (cs.reverse.dropWhile isBlank).reverse

def trim (cs : List Char) : List Char := trimEnd (trimStart cs)

/-- The text without the blanks around it. -/
def trimmed (s : String) : String := String.ofList (trim s.toList)

/-- A text of blanks only, the empty one included. -/
def allBlank (s : String) : Bool := s.toList.all isBlank

end PluginFabric.Text
