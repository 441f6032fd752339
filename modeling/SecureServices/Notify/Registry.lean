import Mathlib.Data.Set.Card
import SecureServices.Notify.Model

namespace SecureServices
namespace Notify

open Library Ffa

/-!
# What the notification service is for

A registry of services, and for each service of what is registered under which
cookie, next to the set of ids that are in use.  There are no slots and no
order in it: a request is its tuples, one after the other, and they take
effect together or not at all.  Only the service that a registration had to
add stays if its tuples are refused.
-/

/-- What is registered under a cookie. -/
structure Registration where
  id : U16
  ntype : NotifyType
  srcId : U16
deriving DecidableEq, Repr

structure Registry where
  services : Set Uuid
  registered : Uuid -> U32 -> Option Registration
  ids : Set U16

namespace Registry

def empty : Registry := ⟨∅, fun _ _ => none, ∅⟩

/-- The cookies under which the service has something registered. -/
def cookies (registry : Registry) (service : Uuid) : Set U32 :=
  { cookie | (registry.registered service cookie).isSome = true }

/-- Change what is registered under a cookie, and the ids. -/
def put (registry : Registry) (service : Uuid) (cookie : U32) (registration : Option Registration)
    (ids : Set U16) : Registry where
  services := registry.services
  registered := Function.update registry.registered service
    (Function.update (registry.registered service) cookie registration)
  ids := ids

open Classical in
/-- Register an id that is not in use under a cookie that is not. -/
noncomputable def register (service : Uuid) (srcId : U16) (registry : Registry) (tuple : NotifyTuple) :
    Except ErrorCode Registry :=
  if (registry.registered service tuple.cookie).isSome = true ∨ 64 ≤ tuple.id.toNat ∨
      tuple.id ∈ registry.ids then
    .error .invalidParameters
  else if (registry.cookies service).ncard < notifyMaxMappings then
    .ok (registry.put service tuple.cookie (some ⟨tuple.id, tuple.ntype, srcId⟩) (registry.ids ∪ {tuple.id}))
  else .error .noMemory

/-- Take back a registration that has been made with the same data. -/
def unregister (service : Uuid) (srcId : U16) (registry : Registry) (tuple : NotifyTuple) :
    Except ErrorCode Registry :=
  if registry.registered service tuple.cookie = some ⟨tuple.id, tuple.ntype, srcId⟩ then
    .ok (registry.put service tuple.cookie none (registry.ids \ {tuple.id}))
  else .error .invalidParameters

open Classical in
/-- Give a registration another id, which may be the one that it gives up. -/
noncomputable def assign (service : Uuid) (registry : Registry) (tuple : NotifyTuple) : Except ErrorCode Registry :=
  match registry.registered service tuple.cookie with
  | none => .error .invalidParameters
  | some registration =>
      if 64 ≤ tuple.id.toNat ∨ tuple.id ∈ registry.ids \ {registration.id} then .error .invalidParameters
      else
        .ok (registry.put service tuple.cookie (some { registration with id := tuple.id, ntype := tuple.ntype })
          (registry.ids \ {registration.id} ∪ {tuple.id}))

/-- Take the id of a registration away. -/
def unassign (service : Uuid) (registry : Registry) (tuple : NotifyTuple) : Except ErrorCode Registry :=
  match registry.registered service tuple.cookie with
  | none => .error .invalidParameters
  | some registration =>
      .ok (registry.put service tuple.cookie (some { registration with id := 0, ntype := .global })
        (registry.ids \ {registration.id}))

/-- What a tuple of a request of each kind does. -/
noncomputable def one (service : Uuid) (srcId : U16) : MessageID -> Registry -> NotifyTuple ->
    Except ErrorCode Registry
  | .setup | .add => register service srcId
  | .remove | .destroy => unregister service srcId
  | .assign => assign service
  | .unassign => unassign service

open Classical in
/-- A registration adds its service if there is room for it.  Every other
request is for a service that there is. -/
noncomputable def granted (registry : Registry) (req : NotifyReq) : MessageID -> Except ErrorCode Registry
  | .setup | .add =>
      if req.tuples = [] then .error .invalidParameters
      else if req.receiverUuid ∈ registry.services then .ok registry
      else if registry.services.ncard < notifyMaxServices then
        .ok { registry with services := registry.services ∪ {req.receiverUuid} }
      else .error .noMemory
  | .remove | .destroy | .assign | .unassign =>
      if req.receiverUuid ∈ registry.services then .ok registry else .error .invalidParameters

/-- What a transaction leaves: all of it, or nothing but the status. -/
def conclude (start : Registry) : Except ErrorCode Registry -> ErrorCode × Registry
  | .ok final => (.ok, final)
  | .error code => (code, start)

noncomputable def process (registry : Registry) (req : NotifyReq) (id : MessageID) : ErrorCode × Registry :=
  match registry.granted req id with
  | .error code => (code, registry)
  | .ok admitted => conclude admitted (req.tuples.foldlM (one req.receiverUuid req.srcId id) admitted)

/-- The response to a message, and the registry after it. -/
noncomputable def respond (registry : Registry) (message : MsgSendDirectReq2) :
    Except Error MsgSendDirectResp2 × Registry :=
  let req := NotifyReq.ofMessage message
  match messageId req.msgInfo with
  | none => (.error (.other "Invalid notify message ID"), registry)
  | some id =>
      let (status, after) := registry.process req id
      (.ok (.fromReqWithPayload message (NfySetupRsp.respond id req status).intoPayload), after)

noncomputable def step (registry : Registry) (message : MsgSendDirectReq2) : Registry :=
  (registry.respond message).2

end Registry

end Notify
end SecureServices
