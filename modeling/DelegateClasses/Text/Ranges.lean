/-! Sets of code points, given by the ranges and runs that make them up. -/
namespace DelegateClasses.Text

/-- Whether a code point lies in one of the ranges, both ends included. -/
def inRanges (ranges : List (Nat × Nat)) (code : Nat) : Bool :=
  ranges.any fun range => range.1 ≤ code && code ≤ range.2

/-- The code points `first`, `first + step`, ... up to `last`. -/
structure Run where
  first : Nat
  last : Nat
  step : Nat

/-- Whether a code point belongs to the run. -/
def Run.contains (run : Run) (code : Nat) : Bool :=
  run.first ≤ code && code ≤ run.last && (code - run.first) % run.step == 0

end DelegateClasses.Text
