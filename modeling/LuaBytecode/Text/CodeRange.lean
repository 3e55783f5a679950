/-!
# Ranges of codes

A property of characters is kept as the closed ranges of the codes that have it.
-/

set_option autoImplicit false

namespace LuaBytecode.Text

/-- Closed ranges of codes. -/
abbrev CodeRanges := List (Nat × Nat)

def CodeRanges.includes (ranges : CodeRanges) (code : Nat) : Bool :=
  ranges.any fun range => decide (range.1 ≤ code) && decide (code ≤ range.2)

end LuaBytecode.Text
