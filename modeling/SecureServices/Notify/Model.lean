import SecureServices.Ffa.DirectMessage
import Mathlib.Data.Fin.Tuple.Basic
import Mathlib.Logic.Function.Basic

namespace SecureServices
namespace Notify

open Library Ffa

/-!
# The notification service

`ec-service-lib/src/services/notify.rs`.  A table of sixteen service entries,
each with sixty-four mapping slots, is kept together with one word that has a
bit for every notification id in use.  Fixed arrays are functions on their
index type.

A request carries up to seven tuples, and every operation is one or two loops
over them.  The operations roll back in different ways: registration and its
inverse work on a copy of the whole service and commit it at the end, the two
assignment operations validate all tuples before they change anything.  Both
are a loop that may stop early, and what is left behind when it stops is said
once, by `settle`.
-/

abbrev notifyMaxServices : Nat := 16
abbrev notifyMaxMappings : Nat := 64
abbrev notifyMaxTuplesPerReq : Nat := 7
def messageInfoDirResp : U64 := 0x100

/-! ## Requests -/

/-- `enum MessageID`. -/
inductive MessageID where
  | add | remove | setup | destroy | assign | unassign
deriving DecidableEq, Repr

def MessageID.toU64 : MessageID -> U64
  | add => 0
  | remove => 1
  | setup => 2
  | destroy => 3
  | assign => 4
  | unassign => 5

/-- `MessageInfo::message_id`: the low three bits, if they name a message. -/
def messageId (msgInfo : U64) : Option MessageID :=
  match (msgInfo &&& 0b111).toNat with
  | 0 => some .add
  | 1 => some .remove
  | 2 => some .setup
  | 3 => some .destroy
  | 4 => some .assign
  | 5 => some .unassign
  | _ => none

/-- `enum NotifyType`. -/
inductive NotifyType where
  | global | perVcpu
deriving DecidableEq, Repr

/-- One `(cookie, id, type)` tuple of a request. -/
structure NotifyTuple where
  cookie : U32
  id : U16
  ntype : NotifyType
deriving DecidableEq, Repr

/-- `struct NotifyReq`. -/
structure NotifyReq where
  srcId : U16
  senderUuid : Uuid
  receiverUuid : Uuid
  msgInfo : U64
  count : Nat
  notifications : List NotifyTuple

namespace NotifyReq

/-- `extract_tuple`. -/
def extractTuple (value : U64) : NotifyTuple where
  cookie := (value >>> 32).setWidth 32
  id := ((value >>> 23) &&& 0x1ff).setWidth 16
  ntype := if value &&& 0x1 ≠ 0 then .perVcpu else .global

/-- `From<MsgSendDirectReq2>`.  The tuple count is clamped to the registers
that can carry one; registers after it are not looked at. -/
def ofMessage (message : MsgSendDirectReq2) : NotifyReq :=
  let payload := message.payload
  let count := min (payload.registerAt 6 &&& 0x1ff).toNat notifyMaxTuplesPerReq
  { srcId := message.sourceId
    senderUuid := Uuid.fromU128Le (payload.registerAt 2 ++ payload.registerAt 1)
    receiverUuid := Uuid.fromU128Le (payload.registerAt 4 ++ payload.registerAt 3)
    msgInfo := payload.registerAt 5
    count
    notifications := (List.finRange 7).map (fun index =>
      if index.val < count then extractTuple (payload.registerAt (index.natAdd 7))
      else ⟨0, 0, .global⟩) }

/-- `req.notifications.iter().take(req.count)`. -/
def tuples (req : NotifyReq) : List NotifyTuple := req.notifications.take req.count

/-- No cookie occurs in two tuples of the request. -/
def DistinctCookies (req : NotifyReq) : Prop :=
  (req.tuples.map NotifyTuple.cookie).Nodup

instance (req : NotifyReq) : Decidable req.DistinctCookies :=
  inferInstanceAs (Decidable (List.Nodup _))

end NotifyReq

/-! ## The table -/

/-- `struct NfyMapping`. -/
structure NfyMapping where
  cookie : U32
  id : U16
  ntype : NotifyType
  srcId : U16
  inUse : Bool
deriving DecidableEq, Repr

/-- `NfyMapping::default`. -/
def NfyMapping.default : NfyMapping := ⟨0, 0, .global, 0, false⟩

/-- `struct NfyEntry`. -/
structure NfyEntry where
  serviceUuid : Uuid
  inUse : Bool
  mappings : Fin notifyMaxMappings -> NfyMapping

/-- `NfyEntry::default`. -/
def NfyEntry.default : NfyEntry := ⟨⟨0⟩, false, fun _ => NfyMapping.default⟩

/-- `struct Notify`. -/
structure Table where
  entries : Fin notifyMaxServices -> NfyEntry
  globalBitmap : U64

/-- A mapping slot, by entry and position. -/
abbrev Slot := Fin notifyMaxServices × Fin notifyMaxMappings

namespace Table

/-- `Notify::new`. -/
def new : Table := ⟨fun _ => NfyEntry.default, 0⟩

def mapping (table : Table) (slot : Slot) : NfyMapping :=
  (table.entries slot.1).mappings slot.2

/-- A mapping is in use when its own flag and that of its entry are set. -/
def InUse (table : Table) (slot : Slot) : Prop :=
  (table.entries slot.1).inUse = true ∧ (table.mapping slot).inUse = true

instance (table : Table) (slot : Slot) : Decidable (table.InUse slot) :=
  inferInstanceAs (Decidable (_ ∧ _))

/-- Overwrite one mapping. -/
def setMapping (table : Table) (slot : Slot) (mapping : NfyMapping) : Table :=
  { table with
    entries := Function.update table.entries slot.1
      { table.entries slot.1 with
        mappings := Function.update (table.entries slot.1).mappings slot.2 mapping } }

def setBitmap (table : Table) (bitmap : U64) : Table := { table with globalBitmap := bitmap }

/-- `nfy_find_entry`. -/
def nfyFindEntry (table : Table) (uuid : Uuid) : Option (Fin notifyMaxServices) :=
  Fin.find? (fun index => (table.entries index).serviceUuid == uuid && (table.entries index).inUse)

/-- `nfy_find_empty_slot`. -/
def nfyFindEmptySlot (table : Table) : Option (Fin notifyMaxServices) :=
  Fin.find? (fun index => !(table.entries index).inUse)

/-- Claim an entry slot for a service, with all mappings blank. -/
def claimEntry (table : Table) (index : Fin notifyMaxServices) (uuid : Uuid) : Table :=
  { table with entries := Function.update table.entries index ⟨uuid, true, fun _ => NfyMapping.default⟩ }

/-- `find_or_create_entry`: the index and the table after the lookup, which
differs from the table before it when a fresh entry had to be claimed. -/
def findOrCreateEntry (table : Table) (uuid : Uuid) : Option (Fin notifyMaxServices × Table) :=
  match table.nfyFindEntry uuid with
  | some index => some (index, table)
  | none => (table.nfyFindEmptySlot).map (fun empty => (empty, table.claimEntry empty uuid))

/-- `nfy_find_matching_cookie`.  The index is in range by its type. -/
def nfyFindMatchingCookie (table : Table) (entry : Fin notifyMaxServices) (cookie : U32) :
    Option (Fin notifyMaxMappings) :=
  Fin.find? (fun index => (table.mapping (entry, index)).inUse &&
    (table.mapping (entry, index)).cookie == cookie)

end Table

/-- `nfy_bitmask`. -/
def nfyBitmask (id : U16) : Option U64 :=
  if id < 64 then some (bitAt 64 id.toNat) else none

/-! ## Loops over the tuples -/

/-- How a loop ends before the last tuple: with an error code for the
response, or in a panic. -/
inductive Stop where
  | refused (code : ErrorCode)
  | panicked
deriving DecidableEq, Repr

/-- What a loop leaves behind.  A completed loop is committed, a refused one
keeps the table it started from, and a panic has no result. -/
def settle (start : Table) : Except Stop Table -> Option (ErrorCode × Table)
  | .ok committed => some (.ok, committed)
  | .error (.refused code) => some (code, start)
  | .error .panicked => none

/-- One iteration of `nfy_register_mapping`.  The cookie is looked up in the
service, the id and the free slot in the copy. -/
def registerTuple (table : Table) (entry : Fin notifyMaxServices) (srcId : U16) (temp : Table)
    (tuple : NotifyTuple) : Except Stop Table :=
  if (table.nfyFindMatchingCookie entry tuple.cookie).isSome then
    .error (.refused .invalidParameters)
  else
    match nfyBitmask tuple.id with
    | none => .error (.refused .invalidParameters)
    | some bit =>
        if temp.globalBitmap &&& bit ≠ 0 then .error (.refused .invalidParameters)
        else
          match Fin.find? (fun index => !(temp.mapping (entry, index)).inUse) with
          | none => .error (.refused .noMemory)
          | some index =>
              .ok ((temp.setMapping (entry, index)
                ⟨tuple.cookie, tuple.id, tuple.ntype, srcId, true⟩).setBitmap
                (temp.globalBitmap ||| bit))

/-- `nfy_register_mapping`. -/
def nfyRegisterMapping (table : Table) (entry : Fin notifyMaxServices) (req : NotifyReq) :
    Option (ErrorCode × Table) :=
  settle table (req.tuples.foldlM (registerTuple table entry req.srcId) table)

/-- One iteration of `nfy_unregister_mapping`.  The cookie is looked up in
the service, the mapping it names is read from the copy.  The shift of the
last statement is not guarded and overflows for an id of 64 or more. -/
def unregisterTuple (table : Table) (entry : Fin notifyMaxServices) (srcId : U16) (temp : Table)
    (tuple : NotifyTuple) : Except Stop Table :=
  match table.nfyFindMatchingCookie entry tuple.cookie with
  | none => .error (.refused .invalidParameters)
  | some index =>
      let found := temp.mapping (entry, index)
      if found.id ≠ tuple.id then .error (.refused .invalidParameters)
      else if found.ntype ≠ tuple.ntype then .error (.refused .invalidParameters)
      else if found.srcId ≠ srcId then .error (.refused .invalidParameters)
      else if found.id < 64 then
        .ok ((temp.setMapping (entry, index) NfyMapping.default).setBitmap
          (temp.globalBitmap &&& ~~~ bitAt 64 found.id.toNat))
      else .error .panicked

/-- `nfy_unregister_mapping`. -/
def nfyUnregisterMapping (table : Table) (entry : Fin notifyMaxServices) (req : NotifyReq) :
    Option (ErrorCode × Table) :=
  settle table (req.tuples.foldlM (unregisterTuple table entry req.srcId) table)

/-- Clear the bit of an id, if it has one. -/
def clearBit (bitmap : U64) (id : U16) : U64 :=
  match nfyBitmask id with
  | some bit => bitmap &&& ~~~bit
  | none => bitmap

/-- One iteration of the validation pass of `nfy_assign`, on the simulated
bitmap.  The table is not changed during the pass. -/
def assignCheck (table : Table) (entry : Fin notifyMaxServices) (simBitmap : U64)
    (tuple : NotifyTuple) : Except Stop U64 :=
  match table.nfyFindMatchingCookie entry tuple.cookie with
  | none => .error (.refused .invalidParameters)
  | some index =>
      let cleared := clearBit simBitmap (table.mapping (entry, index)).id
      match nfyBitmask tuple.id with
      | none => .error (.refused .invalidParameters)
      | some bit =>
          if cleared &&& bit ≠ 0 then .error (.refused .invalidParameters)
          else .ok (cleared ||| bit)

/-- One iteration of the second pass of `nfy_assign`; the `unwrap` panics. -/
def assignApply (entry : Fin notifyMaxServices) (temp : Table) (tuple : NotifyTuple) :
    Except Stop Table :=
  match temp.nfyFindMatchingCookie entry tuple.cookie with
  | none => .error .panicked
  | some index =>
      .ok (temp.setMapping (entry, index)
        { temp.mapping (entry, index) with id := tuple.id, ntype := tuple.ntype })

/-- The two passes of `nfy_assign`. -/
def assignMappings (table : Table) (entry : Fin notifyMaxServices) (tuples : List NotifyTuple) :
    Except Stop Table := do
  let simBitmap <- tuples.foldlM (assignCheck table entry) table.globalBitmap
  let applied <- tuples.foldlM (assignApply entry) table
  return applied.setBitmap simBitmap

/-- One iteration of the validation pass of `nfy_unassign`. -/
def unassignCheck (table : Table) (entry : Fin notifyMaxServices) (_ : Unit)
    (tuple : NotifyTuple) : Except Stop Unit :=
  if (table.nfyFindMatchingCookie entry tuple.cookie).isNone then
    .error (.refused .invalidParameters)
  else .ok ()

/-- One iteration of the second pass of `nfy_unassign`.  The mapping stays in
use with its cookie; only its id and type are reset. -/
def unassignApply (entry : Fin notifyMaxServices) (temp : Table) (tuple : NotifyTuple) :
    Except Stop Table :=
  match temp.nfyFindMatchingCookie entry tuple.cookie with
  | none => .error .panicked
  | some index =>
      .ok ((temp.setMapping (entry, index)
        { temp.mapping (entry, index) with id := 0, ntype := .global }).setBitmap
        (clearBit temp.globalBitmap (temp.mapping (entry, index)).id))

/-- The two passes of `nfy_unassign`.  The bitmap of the second pass is
threaded through the table; nothing reads the service's own one meanwhile. -/
def unassignMappings (table : Table) (entry : Fin notifyMaxServices) (tuples : List NotifyTuple) :
    Except Stop Table := do
  tuples.foldlM (unassignCheck table entry) ()
  tuples.foldlM (unassignApply entry) table

/-! ## Handlers -/

/-- `struct NfySetupRsp`. -/
structure NfySetupRsp where
  reserved : U64
  senderUuid : Uuid
  receiverUuid : Uuid
  msgInfo : U64
  status : ErrorCode

namespace NfySetupRsp

/-- `NfySetupRsp::respond`. -/
def respond (msgId : MessageID) (req : NotifyReq) (status : ErrorCode) : NfySetupRsp where
  reserved := 0
  senderUuid := req.senderUuid
  receiverUuid := req.receiverUuid
  msgInfo := messageInfoDirResp + msgId.toU64
  status

/-- `From<NfySetupRsp> for DirectMessagePayload`. -/
def intoPayload (rsp : NfySetupRsp) : DirectMessagePayload :=
  DirectMessagePayload.ofRegisters
    [rsp.reserved, rsp.senderUuid.asU64Pair.1, rsp.senderUuid.asU64Pair.2,
      rsp.receiverUuid.asU64Pair.1, rsp.receiverUuid.asU64Pair.2, rsp.msgInfo, rsp.status.toU64]
    (Nat.le_add_left 7 7)

end NfySetupRsp

/-- The common body of `nfy_setup` and `nfy_add`. -/
def registerRequest (table : Table) (req : NotifyReq) : Option (ErrorCode × Table) :=
  if ¬ (1 ≤ req.count ∧ req.count ≤ notifyMaxTuplesPerReq) then some (.invalidParameters, table)
  else
    match table.findOrCreateEntry req.receiverUuid with
    | none => some (.noMemory, table)
    | some (entry, claimed) => nfyRegisterMapping claimed entry req

/-- The common body of `nfy_destroy` and `nfy_remove`. -/
def unregisterRequest (table : Table) (req : NotifyReq) : Option (ErrorCode × Table) :=
  match table.nfyFindEntry req.receiverUuid with
  | none => some (.invalidParameters, table)
  | some entry => nfyUnregisterMapping table entry req

/-- `nfy_assign`, up to the response. -/
def assignRequest (table : Table) (req : NotifyReq) : Option (ErrorCode × Table) :=
  match table.nfyFindEntry req.receiverUuid with
  | none => some (.invalidParameters, table)
  | some entry => settle table (assignMappings table entry req.tuples)

/-- `nfy_unassign`, up to the response. -/
def unassignRequest (table : Table) (req : NotifyReq) : Option (ErrorCode × Table) :=
  match table.nfyFindEntry req.receiverUuid with
  | none => some (.invalidParameters, table)
  | some entry => settle table (unassignMappings table entry req.tuples)

/-- The handler a message id selects: its status and the table it leaves. -/
def process (table : Table) (req : NotifyReq) : MessageID -> Option (ErrorCode × Table)
  | .setup | .add => registerRequest table req
  | .destroy | .remove => unregisterRequest table req
  | .assign => assignRequest table req
  | .unassign => unassignRequest table req

/-- `Service::ffa_msg_send_direct_req2`: the response and the table after it,
or `none` for a panic. -/
def ffaMsgSendDirectReq2 (table : Table) (message : MsgSendDirectReq2) :
    Option (Except Error MsgSendDirectResp2 × Table) :=
  let req := NotifyReq.ofMessage message
  match messageId req.msgInfo with
  | none => some (.error (.other "Invalid notify message ID"), table)
  | some id =>
      (process table req id).map (fun (status, after) =>
        (.ok (.fromReqWithPayload message (NfySetupRsp.respond id req status).intoPayload), after))

end Notify
end SecureServices
