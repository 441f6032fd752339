import Mathlib.Logic.Relation

namespace SecureServices
namespace Library

/-!
# Computations that agree

Two computations on states of different types agree up to a relation on these
states if they have the same output and leave related states.  What is built
from agreeing parts agrees, so two devices that a driver cannot tell apart
cannot be told apart by anything that is built on the driver.
-/

variable {Left Middle Right Output Value : Type*}

/-- The same output, and related states. -/
structure Agree (Related : Left -> Right -> Prop) (left : Output × Left) (right : Output × Right) : Prop where
  output : left.1 = right.1
  related : Related left.2 right.2

namespace Agree

variable {Related : Left -> Right -> Prop} {left : Output × Left} {right : Output × Right}

/-- The one output, and the two states. -/
theorem split (agree : Agree Related left right) :
    exists output first second, left = (output, first) ∧ right = (output, second) ∧ Related first second :=
  ⟨right.1, left.2, right.2, Prod.ext agree.output rfl, rfl, agree.related⟩

/-- The same is made of both outputs. -/
theorem map (agree : Agree Related left right) (make : Output -> Value) :
    Agree Related (make left.1, left.2) (make right.1, right.2) :=
  ⟨congrArg make agree.output, agree.related⟩

/-- Agreement through a third computation. -/
theorem comp {Further : Right -> Middle -> Prop} {third : Output × Middle} (early : Agree Related left right)
    (late : Agree Further right third) : Agree (Relation.Comp Related Further) left third :=
  ⟨early.output.trans late.output, right.2, early.related, late.related⟩

end Agree

end Library
end SecureServices
