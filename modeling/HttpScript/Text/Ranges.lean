/-!
# Membership in a table of code point ranges
-/
namespace HttpScript.Text

/-- `n` lies in one of the closed ranges. -/
def inRanges (ranges : List (Nat × Nat)) (n : Nat) : Bool :=
  ranges.any fun r => r.1 ≤ n && n ≤ r.2

end HttpScript.Text
