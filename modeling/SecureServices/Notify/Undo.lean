import SecureServices.Notify.Batching

namespace SecureServices
namespace Notify

open Library Ffa

/-!
# A removal undoes a registration

A registration with distinct cookies puts each tuple into a mapping of its own
that was free before.  Afterwards the cookie of a tuple leads to that mapping
and to no other, since the service refuses a cookie that it knows.  A removal
of the same tuples therefore blanks exactly the mappings that were filled, and
in a well-formed table they were blank before.
-/

/-! ## Where the tuples of a registration go -/

/-- Each tuple fills the mapping that `slotOf` gives to its cookie, which was
free, and every other mapping is as before. -/
structure Placed (table : Table) (entry : Fin notifyMaxServices) (srcId : U16)
    (tuples : List NotifyTuple) (final : Table) (slotOf : U32 -> Fin notifyMaxMappings) : Prop where
  filled : forall tuple, tuple ∈ tuples ->
    (table.mapping (entry, slotOf tuple.cookie)).inUse = false ∧
      final.mapping (entry, slotOf tuple.cookie) = ⟨tuple.cookie, tuple.id, tuple.ntype, srcId, true⟩
  others : forall slot, (forall tuple, tuple ∈ tuples -> slot ≠ (entry, slotOf tuple.cookie)) ->
    final.mapping slot = table.mapping slot

/-- One more tuple goes to a mapping that is still free. -/
theorem Placed.snoc {table temp : Table} {entry : Fin notifyMaxServices} {srcId : U16}
    {done : List NotifyTuple} {slotOf : U32 -> Fin notifyMaxMappings}
    (placed : Placed table entry srcId done temp slotOf) {tuple : NotifyTuple}
    (fresh : forall earlier, earlier ∈ done -> earlier.cookie ≠ tuple.cookie)
    {index : Fin notifyMaxMappings} (free : (temp.mapping (entry, index)).inUse = false)
    (bitmap : U64) :
    Placed table entry srcId (done ++ [tuple])
      ((temp.setMapping (entry, index)
        ⟨tuple.cookie, tuple.id, tuple.ntype, srcId, true⟩).setBitmap bitmap)
      (Function.update slotOf tuple.cookie index) := by
  have apart : forall earlier, earlier ∈ done -> (entry, index) ≠ (entry, slotOf earlier.cookie) := by
    intro earlier member same
    rw [same, (placed.filled earlier member).2] at free
    cases free
  constructor
  · intro other member
    rw [Table.mapping_setBitmap]
    rcases List.mem_append.mp member with earlier | last
    · rw [Function.update_of_ne (fresh other earlier),
        Table.mapping_setMapping_of_ne temp _ (apart other earlier).symm]
      exact placed.filled other earlier
    · rw [List.mem_singleton.mp last, Function.update_self, Table.mapping_setMapping_self,
        ← placed.others _ apart]
      exact ⟨free, rfl⟩
  · intro slot unfilled
    have different := unfilled tuple (List.mem_append_right done (List.mem_singleton_self tuple))
    rw [Function.update_self] at different
    rw [Table.mapping_setBitmap, Table.mapping_setMapping_of_ne temp _ different]
    apply placed.others
    intro earlier member
    have different := unfilled earlier (List.mem_append_left [tuple] member)
    rw [Function.update_of_ne (fresh earlier member)] at different
    exact different

/-- A completed registration with distinct cookies places its tuples. -/
theorem register_placed {table final : Table} {entry : Fin notifyMaxServices} {srcId : U16}
    {tuples : List NotifyTuple} (distinct : (tuples.map NotifyTuple.cookie).Nodup)
    (completed : tuples.foldlM (registerTuple table entry srcId) table = .ok final) :
    exists slotOf, Placed table entry srcId tuples final slotOf := by
  refine foldlM_invariant (fun done temp => exists slotOf, Placed table entry srcId done temp slotOf)
    ⟨fun _ => 0, fun _ absent => absurd absent List.not_mem_nil, fun _ _ => rfl⟩ ?_ completed
  intro done tuple rest temp next split _reached holds stepped
  rcases holds with ⟨slotOf, placed⟩
  rcases registerTuple_eq_ok stepped with ⟨_, _, _, index, free, rfl⟩
  exact ⟨_, placed.snoc (distinct_from_earlier distinct split) free _⟩

/-- The cookie of a placed tuple leads to its mapping. -/
theorem Placed.lookup {table final : Table} {entry : Fin notifyMaxServices} {srcId : U16}
    {tuples : List NotifyTuple} {slotOf : U32 -> Fin notifyMaxMappings}
    (placed : Placed table entry srcId tuples final slotOf) {tuple : NotifyTuple}
    (member : tuple ∈ tuples) (unknown : table.nfyFindMatchingCookie entry tuple.cookie = none) :
    final.nfyFindMatchingCookie entry tuple.cookie = some (slotOf tuple.cookie) := by
  have filled := (placed.filled tuple member).2
  cases found : final.nfyFindMatchingCookie entry tuple.cookie with
  | none =>
      have skipped := Fin.eq_false_of_find?_eq_none found (slotOf tuple.cookie)
      simp [filled] at skipped
  | some index =>
      have selected := Table.nfyFindMatchingCookie_spec found
      by_cases other : exists tuple, tuple ∈ tuples ∧ (entry, index) = (entry, slotOf tuple.cookie)
      · rcases other with ⟨owner, owned, same⟩
        rw [same, (placed.filled owner owned).2] at selected
        have sameCookie : owner.cookie = tuple.cookie := selected.2
        rw [(Prod.mk.inj same).2, sameCookie]
      · -- A mapping that no tuple fills had the cookie before, and it is unknown.
        rw [placed.others (entry, index) (fun tuple member same => other ⟨tuple, member, same⟩)]
          at selected
        have skipped := Fin.eq_false_of_find?_eq_none unknown index
        simp [selected] at skipped

/-! ## Removing them again -/

/-- A removal clears the bits of the ids that its tuples name. -/
theorem unregister_taken {table final : Table} {entry : Fin notifyMaxServices} {srcId : U16}
    {tuples : List NotifyTuple}
    (completed : tuples.foldlM (unregisterTuple table entry srcId) table = .ok final) (id : U16) :
    taken final.globalBitmap id <->
      taken table.globalBitmap id ∧ id ∉ tuples.map NotifyTuple.id := by
  refine foldlM_invariant (fun done temp => taken temp.globalBitmap id <->
    taken table.globalBitmap id ∧ id ∉ done.map NotifyTuple.id) (by simp) ?_ completed
  intro done tuple rest temp next _split _reached holds stepped
  rcases unregisterTuple_eq_ok stepped with ⟨index, _, _, _, _, small, rfl⟩
  rw [Table.globalBitmap_setBitmap, ← clearBit_of_lt _ small, taken_clearBit, holds, List.map_append,
    List.mem_append, not_or, and_assoc]
  simp

/-- An iteration of a removal completes on a mapping that agrees with the
tuple. -/
theorem unregisterTuple_completes {table temp : Table} {entry : Fin notifyMaxServices} {srcId : U16}
    {tuple : NotifyTuple} {index : Fin notifyMaxMappings}
    (found : table.nfyFindMatchingCookie entry tuple.cookie = some index)
    (agrees : temp.mapping (entry, index) = ⟨tuple.cookie, tuple.id, tuple.ntype, srcId, true⟩)
    (small : tuple.id.toNat < 64) :
    exists next, unregisterTuple table entry srcId temp tuple = .ok next := by
  have small' : tuple.id < 64 := small
  unfold unregisterTuple
  simp only [found, agrees, ne_eq, not_true_eq_false, if_false, if_pos small']
  exact ⟨_, rfl⟩

/-- The placed tuples can be removed, and their mappings are then blank. -/
theorem Placed.unregister {table final : Table} {receiver : Uuid} {entry : Fin notifyMaxServices}
    {srcId : U16} {tuples : List NotifyTuple} {slotOf : U32 -> Fin notifyMaxMappings}
    (placed : Placed table entry srcId tuples final slotOf)
    (distinct : (tuples.map NotifyTuple.cookie).Nodup)
    (known : final.nfyFindEntry receiver = some entry)
    (usable : forall tuple, tuple ∈ tuples ->
      table.nfyFindMatchingCookie entry tuple.cookie = none ∧ tuple.id.toNat < 64) :
    exists restored, tuples.foldlM (unregisterTuple final entry srcId) final = .ok restored := by
  have named : forall tuple, tuple ∈ tuples ->
      final.nfyFindMatchingCookie entry tuple.cookie = some (slotOf tuple.cookie) :=
    fun tuple member => placed.lookup member (usable tuple member).1
  suffices completes : exists restored,
      tuples.foldlM (unregisterTuple final entry srcId) final = .ok restored ∧ True from
    completes.imp (fun _ => And.left)
  refine foldlM_completes (fun _ _ => True) trivial ?_
  intro done tuple rest temp split reached _
  have member : tuple ∈ tuples := List.mem_iff_append.mpr ⟨done, rest, split⟩
  have untouched : temp.mapping (entry, slotOf tuple.cookie) =
      final.mapping (entry, slotOf tuple.cookie) := by
    apply ((unregister_mapping known reached).2 _).2
    intro earlier before same
    apply distinct_from_earlier distinct split earlier before
    rw [← (Table.addressed_spec same).2, (placed.filled tuple member).2]
  rcases unregisterTuple_completes (named tuple member)
    (untouched.trans (placed.filled tuple member).2) (usable tuple member).2 with ⟨next, stepped⟩
  exact ⟨next, stepped, trivial⟩

/-- The removal brings every mapping back. -/
theorem Placed.restores {table final restored : Table} {receiver : Uuid}
    {entry : Fin notifyMaxServices} {srcId : U16} {tuples : List NotifyTuple}
    {slotOf : U32 -> Fin notifyMaxMappings}
    (placed : Placed table entry srcId tuples final slotOf) (blank : Blank table)
    (known : final.nfyFindEntry receiver = some entry)
    (unknown : forall tuple, tuple ∈ tuples ->
      table.nfyFindMatchingCookie entry tuple.cookie = none)
    (completed : tuples.foldlM (unregisterTuple final entry srcId) final = .ok restored)
    (slot : Slot) : restored.mapping slot = table.mapping slot := by
  have named : forall tuple, tuple ∈ tuples ->
      final.addressed receiver tuple = some (entry, slotOf tuple.cookie) :=
    fun tuple member => Table.addressed_eq_some known (placed.lookup member (unknown tuple member))
  have mappings := (unregister_mapping known completed).2 slot
  by_cases filled : exists tuple, tuple ∈ tuples ∧ slot = (entry, slotOf tuple.cookie)
  · rcases filled with ⟨tuple, member, rfl⟩
    have free := (placed.filled tuple member).1
    rw [mappings.1 ⟨tuple, member, named tuple member⟩]
    refine (blank _ (fun inUse => ?_)).symm
    rw [inUse.2] at free
    cases free
  · have unnamed : forall tuple, tuple ∈ tuples -> final.addressed receiver tuple ≠ some slot := by
      intro tuple member same
      rw [named tuple member] at same
      exact filled ⟨tuple, member, (Option.some.inj same).symm⟩
    rw [mappings.2 unnamed]
    exact placed.others slot (fun tuple member same => filled ⟨tuple, member, same⟩)

/-- Claiming an entry does not change a mapping of a well-formed table. -/
theorem Blank.claimed_mapping {table claimed : Table} (blank : Blank table) {uuid : Uuid}
    {entry : Fin notifyMaxServices}
    (located : table.findOrCreateEntry uuid = some (entry, claimed)) (slot : Slot) :
    claimed.mapping slot = table.mapping slot := by
  have keeps := Table.findOrCreateEntry_keeps located
  by_cases inUse : table.InUse slot
  · exact keeps.2.2 slot inUse
  · have unused : ¬ claimed.InUse slot := fun used => inUse ((keeps.2.1 slot).mp used)
    rw [blank slot inUse, blank.findOrCreateEntry located slot unused]

/-- Bitmaps with the same ids taken are equal. -/
theorem bitmap_ext {left right : U64} (same : forall id, taken left id <-> taken right id) :
    left = right := by
  apply BitVec.eq_of_getLsbD_eq
  intro bit small
  have agree := same (BitVec.ofNat 16 bit)
  rw [taken, taken, BitVec.toNat_ofNat, Nat.mod_eq_of_lt (by omega)] at agree
  exact Bool.eq_iff_iff.mpr agree

/-- A registration, followed by the removal of the same tuples, changes no
mapping and no bit. -/
theorem unregister_register {table claimed final : Table} {receiver : Uuid}
    {entry : Fin notifyMaxServices} {srcId : U16} {tuples : List NotifyTuple}
    (wellFormed : WellFormed table) (distinct : (tuples.map NotifyTuple.cookie).Nodup)
    (located : table.findOrCreateEntry receiver = some (entry, claimed))
    (completed : tuples.foldlM (registerTuple claimed entry srcId) claimed = .ok final) :
    final.nfyFindEntry receiver = some entry ∧
      exists restored, tuples.foldlM (unregisterTuple final entry srcId) final = .ok restored ∧
        restored.globalBitmap = table.globalBitmap ∧
        forall slot, restored.mapping slot = table.mapping slot := by
  have known : final.nfyFindEntry receiver = some entry :=
    ((register_mapping completed).1.nfyFindEntry receiver).trans
      (wellFormed.distinctServices.known_of_claimed located)
  have usable : forall tuple, tuple ∈ tuples ->
      claimed.nfyFindMatchingCookie entry tuple.cookie = none ∧ tuple.id.toNat < 64 := by
    refine forall_mem_of_foldlM (fun temp tuple next stepped => ?_) completed
    rcases registerTuple_eq_ok stepped with ⟨unknown, small, _⟩
    exact ⟨unknown, small⟩
  rcases register_placed distinct completed with ⟨slotOf, placed⟩
  rcases placed.unregister distinct known usable with ⟨restored, removed⟩
  refine ⟨known, restored, removed, bitmap_ext (fun id => ?_), fun slot => ?_⟩
  · rw [unregister_taken removed, register_taken completed, (Table.findOrCreateEntry_keeps located).1]
    have unused : id ∈ tuples.map NotifyTuple.id -> ¬ taken table.globalBitmap id := by
      intro member
      rcases List.mem_map.mp member with ⟨tuple, registered, rfl⟩
      rw [← (Table.findOrCreateEntry_keeps located).1]
      exact ((registrable_of_completed completed).1 tuple registered).2
    tauto
  · rw [placed.restores (wellFormed.blank.findOrCreateEntry located) known
      (fun tuple member => (usable tuple member).1) removed slot]
    exact wellFormed.blank.claimed_mapping located slot

/-! ## Requests -/

/-- Two requests with the same source, receiver and tuples. -/
structure SameTuples (left right : NotifyReq) : Prop where
  source : left.srcId = right.srcId
  receiver : left.receiverUuid = right.receiverUuid
  tuples : left.tuples = right.tuples

theorem unregisterRequest_known {table : Table} {req : NotifyReq} {entry : Fin notifyMaxServices}
    (known : table.nfyFindEntry req.receiverUuid = some entry) :
    unregisterRequest table req =
      settle table (req.tuples.foldlM (unregisterTuple table entry req.srcId) table) := by
  unfold unregisterRequest
  rw [known]
  rfl

/-- A registration with distinct cookies that succeeds is undone by the removal
of the same tuples: it succeeds, and leaves the bitmap and the mappings of
every entry as they were before the registration. -/
theorem removal_undoes_registration (messages : List MsgSendDirectReq2) (table after : Table)
    (registration removal : MsgSendDirectReq2)
    (reached : run step Table.new messages = some table)
    (registers : messageId (NotifyReq.ofMessage registration).msgInfo = some .setup ∨
      messageId (NotifyReq.ofMessage registration).msgInfo = some .add)
    (distinct : (NotifyReq.ofMessage registration).DistinctCookies)
    (registered : answer table registration = some (ErrorCode.ok.toU64, after))
    (removes : messageId (NotifyReq.ofMessage removal).msgInfo = some .destroy ∨
      messageId (NotifyReq.ofMessage removal).msgInfo = some .remove)
    (same : SameTuples (NotifyReq.ofMessage removal) (NotifyReq.ofMessage registration)) :
    exists restored, answer after removal = some (ErrorCode.ok.toU64, restored) ∧
      restored.globalBitmap = table.globalBitmap ∧
      (forall entry, (restored.entries entry).mappings = (table.entries entry).mappings) ∧
      (table.nfyFindEntry (NotifyReq.ofMessage registration).receiverUuid = none ->
        exists entry,
          restored.nfyFindEntry (NotifyReq.ofMessage registration).receiverUuid = some entry ∧
          forall index, restored.mapping (entry, index) = NfyMapping.default) := by
  have wellFormed := wellFormed_of_reached reached
  obtain ⟨id, selected, kind⟩ : exists id,
      messageId (NotifyReq.ofMessage registration).msgInfo = some id ∧ (id = .setup ∨ id = .add) := by
    rcases registers with setup | add
    · exact ⟨.setup, setup, Or.inl rfl⟩
    · exact ⟨.add, add, Or.inr rfl⟩
  have removed : exists id, messageId (NotifyReq.ofMessage removal).msgInfo = some id ∧
      process after (NotifyReq.ofMessage removal) id =
        unregisterRequest after (NotifyReq.ofMessage removal) := by
    rcases removes with destroy | remove
    · exact ⟨.destroy, destroy, rfl⟩
    · exact ⟨.remove, remove, rfl⟩
  cases process_outcome (process_of_answer selected registered) with
  | registered _ _ located completed =>
      rcases unregister_register wellFormed distinct located completed with
        ⟨known, restored, undone, bitmap, mappings⟩
      have cleared : table.nfyFindEntry (NotifyReq.ofMessage registration).receiverUuid = none ->
          exists entry,
            restored.nfyFindEntry (NotifyReq.ofMessage registration).receiverUuid = some entry ∧
            forall index, restored.mapping (entry, index) = NfyMapping.default := by
        intro unknown
        refine ⟨_, ((unregister_mapping known undone).1.nfyFindEntry _).trans known, fun index => ?_⟩
        rw [mappings]
        apply wellFormed.blank
        intro inUse
        rcases Table.findOrCreateEntry_cases located with ⟨impossible, _⟩ | ⟨_, empty, _⟩
        · rw [unknown] at impossible
          cases impossible
        · have free := Table.nfyFindEmptySlot_spec empty
          rw [inUse.1] at free
          cases free
      refine ⟨restored, ?_, bitmap, fun other => funext (fun index => mappings (other, index)), cleared⟩
      rcases removed with ⟨_, selected, processed⟩
      rw [← same.receiver] at known
      rw [answer_eq after selected, processed, unregisterRequest_known known, same.tuples,
        same.source, undone]
      rfl
  | unregistered impossible => rcases kind with rfl | rfl <;> simp at impossible
  | assigned => simp at kind
  | unassigned => simp at kind
  | unchanged failed => exact absurd rfl failed
  | leaked _ _ _ _ _ failed => exact absurd rfl failed

/-- A setup next to a mapping of the same service, and its destruction. -/
def setupPair : MsgSendDirectReq2 :=
  compose 1 7 .setup [⟨1, 3, .global⟩, ⟨2, 4, .perVcpu⟩] (by decide)

def destroyPair : MsgSendDirectReq2 :=
  compose 1 7 .destroy [⟨1, 3, .global⟩, ⟨2, 4, .perVcpu⟩] (by decide)

theorem destroyPair_undoes_setupPair :
    exists table after,
      run step Table.new [compose 2 7 .setup [⟨5, 6, .global⟩] (by decide)] = some table ∧
      answer table setupPair = some (ErrorCode.ok.toU64, after) ∧
      exists restored, answer after destroyPair = some (ErrorCode.ok.toU64, restored) ∧
        restored.globalBitmap = table.globalBitmap ∧
        (forall entry, (restored.entries entry).mappings = (table.entries entry).mappings) ∧
        (table.nfyFindEntry (NotifyReq.ofMessage setupPair).receiverUuid = none ->
          exists entry,
            restored.nfyFindEntry (NotifyReq.ofMessage setupPair).receiverUuid = some entry ∧
            forall index, restored.mapping (entry, index) = NfyMapping.default) := by
  have reached := run_eq_finalState
    (show (run step Table.new [compose 2 7 .setup [⟨5, 6, .global⟩] (by decide)]).isSome = true by
      decide +kernel)
  have status : (answer (finalState step Table.new
      [compose 2 7 .setup [⟨5, 6, .global⟩] (by decide)]) setupPair).map Prod.fst =
        some ErrorCode.ok.toU64 := by
    decide +kernel
  rcases Option.map_eq_some_iff.mp status with ⟨⟨code, after⟩, answered, same⟩
  cases same
  exact ⟨_, after, reached, answered, removal_undoes_registration _ _ after setupPair destroyPair
    reached (Or.inl (by decide +kernel)) (by decide +kernel) answered (Or.inl (by decide +kernel))
    ⟨by decide +kernel, by decide +kernel, by decide +kernel⟩⟩

end Notify
end SecureServices
