import CodeSurvey.Text.Basic

/-!
# Tables of code points

A character property above the ASCII block is given by a table of closed ranges in ascending
order, looked up by halving.
-/

namespace CodeSurvey
namespace CodeRanges

/-- Looks for `n` among the ranges with index from `low` to `high`. Every step at least halves
their number, so the number of ranges is enough fuel. -/
def search (table : Array (Nat × Nat)) (n : Nat) : Nat → Nat → Nat → Bool
  | 0, _, _ => false
  | fuel + 1, low, high =>
    if high ≤ low then false
    else
      let middle := (low + high) / 2
      match table[middle]? with
      | none => false
      | some (first, last) =>
        if n < first then search table n fuel low middle
        else if last < n then search table n fuel (middle + 1) high
        else true

/-- Whether some range of the table holds the code point. -/
def holds (table : Array (Nat × Nat)) (n : Nat) : Bool := search table n table.size 0 table.size

end CodeRanges
end CodeSurvey
