import Mathlib.Logic.Function.Basic
import SecureServices.Library.Run

namespace SecureServices
namespace Library

/-!
# Machines side by side

The machines of a family share one stream of inputs.  An input is addressed to
one of them or to none, and the others stay where they are.  How the inputs of
different machines are interleaved then makes no difference: a run of the
family is a run of each machine on its own inputs.
-/

/-- Machines that respond to inputs, and an address for every input. -/
structure Family (Index Input Output : Type) where
  State : Index -> Type
  respond : (index : Index) -> State index -> Input -> Option (Output × State index)
  address : Input -> Option Index
  /-- The response if no machine is addressed. -/
  unaddressed : Output

namespace Family

variable {Index Input Output : Type} [DecidableEq Index] (family : Family Index Input Output)

/-- A state for every machine. -/
abbrev States := forall index, family.State index

/-- A machine by itself. -/
def step (index : Index) (state : family.State index) (input : Input) : Option (family.State index) :=
  (family.respond index state input).map Prod.snd

/-- The machine to which the input is addressed responds. -/
def respondAll (states : family.States) (input : Input) : Option (Output × family.States) :=
  match family.address input with
  | none => some (family.unaddressed, states)
  | some index =>
      (family.respond index (states index) input).map (fun (output, state) =>
        (output, Function.update states index state))

def stepAll (states : family.States) (input : Input) : Option family.States :=
  (family.respondAll states input).map Prod.snd

variable {family}

end Family

end Library
end SecureServices
