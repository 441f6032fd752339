import SecureServices.Notify.Loops
import SecureServices.Library.Run
import Mathlib.Data.Fintype.Prod

namespace SecureServices
namespace Notify

open Library Ffa

/-!
# Mappings of other sources

A request comes from one endpoint, and a mapping carries the source that
registered it.  A removal compares the two; the two assignment operations do
not, so an assignment reaches any mapping whose cookie it names.

The bitmap couples sources in a second way.  It is shared, and a mapping that
was unassigned stores the id 0 although it does not hold it, so that clearing
or setting the bit of one mapping's stored id can be visible at another one.
The condition below lists exactly these influences, as a property of the
table and the request.
-/

/-- A mapping in use that another source registered. -/
def Table.Foreign (table : Table) (source : U16) (slot : Slot) : Prop :=
  table.InUse slot ∧ (table.mapping slot).srcId ≠ source

instance (table : Table) (source : U16) (slot : Slot) : Decidable (table.Foreign source slot) :=
  inferInstanceAs (Decidable (_ ∧ _))

/-- An id that a mapping of another source stores. -/
def Table.ForeignId (table : Table) (source : U16) (id : U16) : Prop :=
  exists slot, table.Foreign source slot ∧ (table.mapping slot).id = id

instance (table : Table) (source : U16) (id : U16) : Decidable (table.ForeignId source id) :=
  inferInstanceAs (Decidable (exists _slot : Slot, _))

/-- The request leaves the mappings of other sources, and the bits of the ids
they store, exactly as they were. -/
def Isolated (table : Table) (message : MsgSendDirectReq2) : Prop :=
  forall after, step table message = some after ->
    forall slot, table.Foreign message.sourceId slot ->
      after.InUse slot ∧ after.mapping slot = table.mapping slot ∧
      (taken after.globalBitmap (table.mapping slot).id <->
        taken table.globalBitmap (table.mapping slot).id)

/-- What a request must avoid so as not to be seen by other sources. -/
structure SourceSafe (table : Table) (req : NotifyReq) (id : MessageID) : Prop where
  /-- An assignment or unassignment names only mappings of its own source. -/
  owned : id = .assign ∨ id = .unassign -> forall tuple, tuple ∈ req.tuples ->
    forall slot, table.addressed req.receiverUuid tuple = some slot ->
      (table.mapping slot).srcId = req.srcId
  /-- An own mapping that is named does not store an id of another source whose
  bit is set. -/
  released : ¬ (id = .setup ∨ id = .add) -> forall tuple, tuple ∈ req.tuples ->
    forall slot, table.addressed req.receiverUuid tuple = some slot ->
      (table.mapping slot).srcId = req.srcId -> table.ForeignId req.srcId (table.mapping slot).id ->
      ¬ taken table.globalBitmap (table.mapping slot).id
  /-- An id that is asked for is not stored by another source while its bit is
  clear. -/
  given : id = .setup ∨ id = .add ∨ id = .assign -> forall tuple, tuple ∈ req.tuples ->
    table.ForeignId req.srcId tuple.id -> taken table.globalBitmap tuple.id
  /-- A cookie that is named twice leads to a mapping that stores 0 by then. -/
  repeated : id = .remove ∨ id = .destroy ∨ id = .unassign -> ¬ req.DistinctCookies ->
    table.ForeignId req.srcId 0 -> ¬ taken table.globalBitmap 0

/-- Striking an id does not change the bit of another one, nor one that is
clear already. -/
theorem taken_clearBit_iff {start bitmap : U64} (id : U16) {other : U16}
    (same : taken bitmap other <-> taken start other) (clear : other = id -> ¬ taken start other) :
    taken (clearBit bitmap id) other <-> taken start other := by
  rw [taken_clearBit, same]
  exact ⟨And.left, fun bit => ⟨bit, fun equal => clear equal bit⟩⟩

section Loops

variable {table final : Table} {req : NotifyReq} {entry : Fin notifyMaxServices} {slot : Slot}

/-- A tuple that names a mapping for the second time finds the bit of a
foreign id 0 clear. -/
theorem SourceSafe.clear_of_repeated {id : MessageID} (safe : SourceSafe table req id)
    (kind : id = .remove ∨ id = .destroy ∨ id = .unassign) {done rest : List NotifyTuple}
    {tuple : NotifyTuple} {target : Slot} (split : req.tuples = done ++ tuple :: rest)
    (named : table.addressed req.receiverUuid tuple = some target)
    (earlier : exists other, other ∈ done ∧ table.addressed req.receiverUuid other = some target)
    (foreign : table.Foreign req.srcId slot) (zero : (table.mapping slot).id = 0) :
    ¬ taken table.globalBitmap (table.mapping slot).id := by
  rw [zero]
  refine safe.repeated kind (fun distinct => ?_) ⟨slot, foreign, zero⟩
  rcases earlier with ⟨other, before, alsoNamed⟩
  exact unnamed_by_earlier distinct split List.mem_cons_self named other before alsoNamed

/-- A registration sets no bit of an id whose bit has to be set already. -/
theorem register_bit {tuples : List NotifyTuple} {srcId id : U16}
    (given : forall tuple, tuple ∈ tuples -> tuple.id = id -> taken table.globalBitmap id)
    (completed : tuples.foldlM (registerTuple table entry srcId) table = .ok final) :
    taken final.globalBitmap id <-> taken table.globalBitmap id := by
  refine foldlM_invariant
    (fun _done temp => taken temp.globalBitmap id <-> taken table.globalBitmap id)
    Iff.rfl ?_ completed
  intro done tuple rest temp next split _reached same stepped
  rcases registerTuple_eq_ok stepped with ⟨_fresh, small, clear, index, _free, rfl⟩
  have different : id ≠ tuple.id := by
    rintro rfl
    have bit := same.mpr (given tuple (List.mem_iff_append.mpr ⟨done, rest, split⟩) rfl)
    rw [taken, clear] at bit
    cases bit
  rw [Table.globalBitmap_setBitmap, taken_setBit _ small, same]
  exact or_iff_left different

/-- A removal that completes named no foreign mapping. -/
theorem unregister_isolated {id : MessageID} (safe : SourceSafe table req id)
    (kind : id = .remove ∨ id = .destroy)
    (located : table.nfyFindEntry req.receiverUuid = some entry)
    (completed : req.tuples.foldlM (unregisterTuple table entry req.srcId) table = .ok final)
    (foreign : table.Foreign req.srcId slot) :
    final.mapping slot = table.mapping slot ∧
      (taken final.globalBitmap (table.mapping slot).id <->
        taken table.globalBitmap (table.mapping slot).id) := by
  refine foldlM_invariant
    (fun _done temp => temp.mapping slot = table.mapping slot ∧
      (taken temp.globalBitmap (table.mapping slot).id <->
        taken table.globalBitmap (table.mapping slot).id))
    ⟨rfl, Iff.rfl⟩ ?_ completed
  intro done tuple rest temp next split reached holds stepped
  rcases unregisterTuple_eq_ok stepped with ⟨index, found, sameId, _, sameSource, small, rfl⟩
  have named := Table.addressed_eq_some located found
  have member := List.mem_iff_append.mpr ⟨done, rest, split⟩
  have different : slot ≠ (entry, index) := by
    rintro rfl
    rw [holds.1] at sameSource
    exact foreign.2 sameSource
  rw [Table.mapping_setBitmap, Table.mapping_setMapping_of_ne temp _ different,
    Table.globalBitmap_setBitmap, ← clearBit_of_lt _ small]
  refine ⟨holds.1, taken_clearBit_iff tuple.id holds.2 (fun equal => ?_)⟩
  -- The mapping read from the copy is blank if an earlier tuple named it, and else as in the table.
  have copy := (unregister_mapping located reached).2 (entry, index)
  by_cases earlier : exists other, other ∈ done ∧ table.addressed req.receiverUuid other = some (entry, index)
  · have zero : (table.mapping slot).id = 0 := by
      rw [equal, ← sameId, copy.1 earlier]
      rfl
    exact safe.clear_of_repeated (kind.imp_right Or.inl) split named earlier foreign zero
  · have untouched := copy.2 (fun other before alsoNamed => earlier ⟨other, before, alsoNamed⟩)
    rw [untouched] at sameSource sameId
    rw [equal, ← sameId]
    refine safe.released (by rintro (rfl | rfl) <;> simp at kind) tuple member (entry, index) named
      sameSource ⟨slot, foreign, ?_⟩
    rw [equal, sameId]

/-- What both assignment operations keep of a mapping that is not named. -/
theorem Keeps.isolated (kept : Keeps table req.receiverUuid req.tuples final)
    (owned : forall tuple, tuple ∈ req.tuples -> forall slot,
      table.addressed req.receiverUuid tuple = some slot -> (table.mapping slot).srcId = req.srcId)
    (foreign : table.Foreign req.srcId slot) : final.mapping slot = table.mapping slot :=
  (kept.2 slot).2 (fun tuple member named => foreign.2 (owned tuple member slot named))

/-- The simulated bitmap of an assignment keeps the bits of foreign ids. -/
theorem assignCheck_isolated (safe : SourceSafe table req .assign) {simBitmap : U64}
    (located : table.nfyFindEntry req.receiverUuid = some entry)
    (checked : req.tuples.foldlM (assignCheck table entry) table.globalBitmap = .ok simBitmap)
    (foreign : table.Foreign req.srcId slot) :
    taken simBitmap (table.mapping slot).id <-> taken table.globalBitmap (table.mapping slot).id := by
  refine foldlM_invariant
    (fun _done bitmap => taken bitmap (table.mapping slot).id <->
      taken table.globalBitmap (table.mapping slot).id)
    Iff.rfl ?_ checked
  intro done tuple rest bitmap next split _reached same stepped
  rcases assignCheck_eq_ok stepped with ⟨index, found, small, free, rfl⟩
  have named := Table.addressed_eq_some located found
  have member := List.mem_iff_append.mpr ⟨done, rest, split⟩
  have own := safe.owned (Or.inl rfl) tuple member (entry, index) named
  have cleared := taken_clearBit_iff (table.mapping (entry, index)).id same (fun equal => by
    rw [equal]
    exact safe.released (by simp) tuple member (entry, index) named own ⟨slot, foreign, equal⟩)
  have different : (table.mapping slot).id ≠ tuple.id := by
    intro equal
    have bit := cleared.mpr (equal ▸ safe.given (Or.inr (Or.inr rfl)) tuple member ⟨slot, foreign, equal⟩)
    rw [taken, equal, free] at bit
    cases bit
  rw [taken_setBit _ small, cleared]
  exact or_iff_left different

/-- The second pass of an unassignment keeps the bits of foreign ids. -/
theorem unassignApply_isolated (safe : SourceSafe table req .unassign)
    (located : table.nfyFindEntry req.receiverUuid = some entry)
    (applied : req.tuples.foldlM (unassignApply entry) table = .ok final)
    (foreign : table.Foreign req.srcId slot) :
    taken final.globalBitmap (table.mapping slot).id <->
      taken table.globalBitmap (table.mapping slot).id := by
  refine foldlM_invariant
    (fun _done temp => taken temp.globalBitmap (table.mapping slot).id <->
      taken table.globalBitmap (table.mapping slot).id)
    Iff.rfl ?_ applied
  intro done tuple rest temp next split reached same stepped
  rcases unassignApply_eq_ok stepped with ⟨index, found, rfl⟩
  have kept := unassignApply_keeps located reached
  rw [kept.lookup] at found
  have named := Table.addressed_eq_some located found
  have member := List.mem_iff_append.mpr ⟨done, rest, split⟩
  have own := safe.owned (Or.inr rfl) tuple member (entry, index) named
  rw [Table.globalBitmap_setBitmap]
  refine taken_clearBit_iff _ same (fun equal => ?_)
  by_cases earlier : exists other, other ∈ done ∧ table.addressed req.receiverUuid other = some (entry, index)
  · have zero : (table.mapping slot).id = 0 := equal.trans (unassignApply_named located reached earlier)
    exact safe.clear_of_repeated (Or.inr (Or.inr rfl)) split named earlier foreign zero
  · have untouched := (kept.2 (entry, index)).2
      (fun other before alsoNamed => earlier ⟨other, before, alsoNamed⟩)
    rw [untouched] at equal
    rw [equal]
    exact safe.released (by simp) tuple member (entry, index) named own ⟨slot, foreign, equal⟩

end Loops

/-! ## Requests and runs -/

/-- A processed request that meets the condition does not change what other
sources have. -/
theorem process_isolated {table after : Table} {req : NotifyReq} {id : MessageID} {status : ErrorCode}
    (safe : SourceSafe table req id) (processed : process table req id = some (status, after))
    {slot : Slot} (foreign : table.Foreign req.srcId slot) :
    after.InUse slot ∧ after.mapping slot = table.mapping slot ∧
      (taken after.globalBitmap (table.mapping slot).id <->
        taken table.globalBitmap (table.mapping slot).id) := by
  have stillInUse : forall {later : Table}, later.SameEntries table ->
      later.mapping slot = table.mapping slot -> later.InUse slot :=
    fun sameEntries same => (sameEntries.inUse_iff (congrArg _ same)).mpr foreign.1
  cases process_outcome processed with
  | @registered _ entry claimed _ kind _counted located completed =>
      rcases Table.findOrCreateEntry_keeps located with ⟨sameBitmap, inUse_iff, sameMapping⟩
      have claimedInUse := (inUse_iff slot).mpr foreign.1
      have kept := register_keeps completed claimedInUse.2
      refine ⟨?_, kept.trans (sameMapping slot foreign.1), ?_⟩
      · exact ((register_mapping completed).1.inUse_iff (congrArg _ kept)).mpr claimedInUse
      · rw [← sameBitmap]
        refine register_bit (fun tuple member equal => ?_) completed
        rw [sameBitmap, ← equal]
        exact safe.given (kind.imp_right Or.inl) tuple member ⟨slot, foreign, equal.symm⟩
  | unregistered kind located completed =>
      rcases unregister_isolated safe kind located completed foreign with ⟨kept, sameBit⟩
      exact ⟨stillInUse (unregister_mapping located completed).1 kept, kept, sameBit⟩
  | assigned located completed =>
      have keeps := assignMappings_keeps located completed
      rcases assignMappings_eq_ok completed with ⟨simBitmap, applied, checked, _stored, rfl⟩
      have kept := keeps.isolated (safe.owned (Or.inl rfl)) foreign
      exact ⟨stillInUse keeps.1 kept, kept, assignCheck_isolated safe located checked foreign⟩
  | unassigned located completed =>
      have keeps := unassignMappings_keeps located completed
      have applied := unassignMappings_eq_ok completed
      have kept := keeps.isolated (safe.owned (Or.inr rfl)) foreign
      exact ⟨stillInUse keeps.1 kept, kept, unassignApply_isolated safe located applied foreign⟩
  | unchanged => exact ⟨foreign.1, rfl, Iff.rfl⟩
  | leaked _ _ _ empty _ _ =>
      exact ⟨(Table.claimEntry_inUse empty _ slot).mpr foreign.1,
        Table.claimEntry_mapping empty _ foreign.1, Iff.rfl⟩

/-- The condition, for a message. -/
def SourceSafeMessage (table : Table) (message : MsgSendDirectReq2) : Prop :=
  forall id, messageId (NotifyReq.ofMessage message).msgInfo = some id ->
    SourceSafe table (NotifyReq.ofMessage message) id

theorem isolated_of_safe {table : Table} {message : MsgSendDirectReq2}
    (safe : SourceSafeMessage table message) : Isolated table message := by
  intro after stepped slot foreign
  rcases step_cases stepped with ⟨_, rfl⟩ | ⟨id, status, selected, processed⟩
  · exact ⟨foreign.1, rfl, Iff.rfl⟩
  · exact process_isolated (safe id selected) processed foreign

/-- At every step of every run, whatever came before it, a request that meets
the condition is not seen by other sources. -/
theorem isolated_along (messages : List MsgSendDirectReq2) :
    Along step (fun table message => SourceSafeMessage table message -> Isolated table message)
      Table.new messages :=
  along_of_forall (fun _ _ => isolated_of_safe) Table.new messages

/-- One endpoint registers a mapping, and another one for the same receiver. -/
def twoSources : List MsgSendDirectReq2 :=
  [compose 1 7 .setup [⟨1, 5, .global⟩] (by decide), compose 2 7 .add [⟨2, 4, .global⟩] (by decide)]

/-- The second registration is safe, and the first mapping is foreign to it. -/
theorem twoSources_isolated :
    exists table, run step Table.new (twoSources.take 1) = some table ∧ table.Foreign 2 (0, 0) ∧
      Isolated table (compose 2 7 .add [⟨2, 4, .global⟩] (by decide)) := by
  have reached := run_eq_finalState
    (show (run step Table.new (twoSources.take 1)).isSome = true by decide +kernel)
  have isolated := along_iff_forall_step.mp (isolated_along twoSources) (twoSources.take 1)
    (compose 2 7 .add [⟨2, 4, .global⟩] (by decide)) [] _ rfl reached
  refine ⟨_, reached, by decide +kernel, isolated (fun id selected => ?_)⟩
  have isAdd : id = .add := Option.some.inj (selected.symm.trans (by decide +kernel))
  subst isAdd
  exact ⟨by decide +kernel, by decide +kernel, by decide +kernel, by decide +kernel⟩

/-- Without the condition another source is not safe: its mapping can be
unassigned by an endpoint that did not register it. -/
theorem not_always_isolated :
    ¬ forall messages table message, run step Table.new messages = some table ->
      Isolated table message := by
  intro always
  have reached := run_eq_finalState
    (show (run step Table.new (twoSources.take 1)).isSome = true by decide +kernel)
  have isolated := always _ _ (compose 2 7 .unassign [⟨1, 0, .global⟩] (by decide)) reached
  have registered : ((finalState step Table.new (twoSources.take 1)).mapping (0, 0)).id = 5 := by
    decide +kernel
  have unassigned : (step (finalState step Table.new (twoSources.take 1))
      (compose 2 7 .unassign [⟨1, 0, .global⟩] (by decide))).map
        (fun after => (after.mapping (0, 0)).id) = some 0 := by
    decide +kernel
  rcases Option.map_eq_some_iff.mp unassigned with ⟨after, stepped, zero⟩
  have kept := (isolated after stepped (0, 0) (by decide +kernel)).2.1
  rw [kept, registered] at zero
  cases zero

end Notify
end SecureServices
