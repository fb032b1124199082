/-!
Tables of code point ranges. A table is an array of closed ranges, sorted by their lower
ends and disjoint; membership is a binary search over it. Every character class of the library
that reaches beyond ASCII is such a table.
-/

set_option autoImplicit false

namespace NetApiDoc.Text

abbrev CodeRange := UInt32 × UInt32

def inRangesBetween (table : Array CodeRange) (c : UInt32) (lo hi : Nat) : Bool :=
  if lo < hi then
    let mid := (lo + hi) / 2
    match table[mid]? with
    | none => false
    | some (a, b) =>
      if c < a then inRangesBetween table c lo mid
      else if b < c then inRangesBetween table c (mid + 1) hi
      else true
  else false
termination_by hi - lo

def inRanges (table : Array CodeRange) (c : UInt32) : Bool :=
  inRangesBetween table c 0 table.size

end NetApiDoc.Text
