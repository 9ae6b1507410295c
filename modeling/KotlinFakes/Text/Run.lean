/-!
# Runs of code points

A Unicode property is kept as an ascending list of runs. A run steps through every code point or
every second one, which is how capital and small letters alternate in most scripts.
-/

namespace KotlinFakes.Text

/-- The code points `first`, `first + step`, … up to `last`. -/
structure Run where
  first : Nat
  last : Nat
  step : Nat
  deriving Repr, DecidableEq

namespace Run

/-- Whether a code point lies on the run. -/
def holds (run : Run) (n : Nat) : Bool :=
  decide (run.first ≤ n) && decide (n ≤ run.last) && (n - run.first) % run.step == 0

/-- Whether a code point lies on one of the runs. The runs ascend, so the search ends at the first
    run that reaches the code point. -/
def anyHolds : List Run → Nat → Bool
  | [], _ => false
  | run :: rest, n => if n ≤ run.last then run.holds n else anyHolds rest n

end Run

end KotlinFakes.Text
