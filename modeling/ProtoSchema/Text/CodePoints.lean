/-!
# Sets of characters

The sets of characters that a standard lists are mostly runs of neighbours, or
of every other code point where two alphabets alternate.  A `Stride` is such a
run, and a set is a list of strides.
-/

namespace ProtoSchema

/-- The code points from `first` to `last` at equal distances. -/
structure Stride where
  /-- The least code point. -/
  first : Nat
  /-- The greatest code point. -/
  last : Nat
  /-- The distance between neighbours. -/
  step : Nat

namespace Stride

/-- Whether a run contains a code point. -/
def contains (run : Stride) (point : Nat) : Bool :=
  run.first ≤ point && point ≤ run.last && (point - run.first) % run.step == 0

/-- Whether one of several runs contains a code point. -/
def anyContains (runs : List Stride) (point : Nat) : Bool :=
  runs.any fun run => run.contains point

end Stride

end ProtoSchema
