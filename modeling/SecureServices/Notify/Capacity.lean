import SecureServices.Notify.Atomicity

namespace SecureServices
namespace Notify

open Library Ffa

/-!
# Entries and live services

An entry should be in use only as long as its service has a mapping.  Nothing
in the source ever clears the flag of an entry, so an entry is lost in two
ways: to a refused registration, and to the removal of the last mapping of a
service.  In a run without these two every entry in use is live, and the
table is full only when sixteen services are.
-/

/-- Every entry in use has a mapping in use. -/
def Live (table : Table) : Prop :=
  forall entry, (table.entries entry).inUse = true ->
    exists index, (table.mapping (entry, index)).inUse = true

/-- No service has two entries. -/
def DistinctServices (table : Table) : Prop :=
  forall left right, (table.entries left).inUse = true -> (table.entries right).inUse = true ->
    (table.entries left).serviceUuid = (table.entries right).serviceUuid -> left = right

/-- A removal that names every mapping which its receiver has left. -/
def Drains (table : Table) (message : MsgSendDirectReq2) : Prop :=
  let req := NotifyReq.ofMessage message
  (messageId req.msgInfo = some .remove ∨ messageId req.msgInfo = some .destroy) ∧
    exists entry, table.nfyFindEntry req.receiverUuid = some entry ∧
      forall index, (table.mapping (entry, index)).inUse = true ->
        exists tuple, tuple ∈ req.tuples ∧
          table.addressed req.receiverUuid tuple = some (entry, index)

instance (table : Table) (message : MsgSendDirectReq2) : Decidable (Drains table message) :=
  inferInstanceAs (Decidable (_ ∧ exists _entry, _ ∧ _))

/-- The request neither leaks an entry nor drains one. -/
def KeepsEntriesLive (table : Table) (message : MsgSendDirectReq2) : Prop :=
  ¬ Leaks table message ∧ ¬ Drains table message

instance (table : Table) (message : MsgSendDirectReq2) : Decidable (KeepsEntriesLive table message) :=
  inferInstanceAs (Decidable (_ ∧ _))

/-! ## The invariant -/

theorem new_live : Live Table.new := fun _ inUse => nomatch inUse

theorem new_distinctServices : DistinctServices Table.new := fun _ _ inUse => nomatch inUse

/-- With the same entries, live mappings that stay in use keep a table live. -/
theorem Live.of_sameEntries {table after : Table} (live : Live table) (same : after.SameEntries table)
    (kept : forall entry, (table.entries entry).inUse = true ->
      (exists index, (table.mapping (entry, index)).inUse = true) ->
      exists index, (after.mapping (entry, index)).inUse = true) : Live after := by
  intro entry inUse
  rw [(same entry).1] at inUse
  exact kept entry inUse (live entry inUse)

theorem DistinctServices.of_sameEntries {table after : Table} (distinct : DistinctServices table)
    (same : after.SameEntries table) : DistinctServices after := by
  intro left right leftInUse rightInUse sameService
  rw [(same left).1] at leftInUse
  rw [(same right).1] at rightInUse
  rw [(same left).2, (same right).2] at sameService
  exact distinct left right leftInUse rightInUse sameService

/-- An unknown service is not that of any entry in use. -/
theorem Table.nfyFindEntry_eq_none {table : Table} {uuid : Uuid} (unknown : table.nfyFindEntry uuid = none)
    {entry : Fin notifyMaxServices} (inUse : (table.entries entry).inUse = true) :
    (table.entries entry).serviceUuid ≠ uuid := by
  intro same
  have skipped := Fin.eq_false_of_find?_eq_none unknown entry
  rw [same, inUse, beq_self_eq_true, Bool.and_self] at skipped
  cases skipped

theorem DistinctServices.claimEntry {table : Table} (distinct : DistinctServices table) {uuid : Uuid}
    (unknown : table.nfyFindEntry uuid = none) (entry : Fin notifyMaxServices) :
    DistinctServices (table.claimEntry entry uuid) := by
  intro left right leftInUse rightInUse same
  by_cases atLeft : left = entry <;> by_cases atRight : right = entry
  · exact atLeft.trans atRight.symm
  · rw [Table.claimEntry_of_ne table uuid atRight] at rightInUse same
    rw [atLeft, Table.claimEntry_entry] at same
    exact absurd same.symm (Table.nfyFindEntry_eq_none unknown rightInUse)
  · rw [Table.claimEntry_of_ne table uuid atLeft] at leftInUse same
    rw [atRight, Table.claimEntry_entry] at same
    exact absurd same (Table.nfyFindEntry_eq_none unknown leftInUse)
  · rw [Table.claimEntry_of_ne table uuid atLeft] at leftInUse same
    rw [Table.claimEntry_of_ne table uuid atRight] at rightInUse same
    exact distinct left right leftInUse rightInUse same

/-- A registration of at least one tuple leaves its entry with a mapping. -/
theorem register_live {table final : Table} {entry : Fin notifyMaxServices} {srcId : U16}
    {tuples : List NotifyTuple} (nonempty : tuples ≠ [])
    (completed : tuples.foldlM (registerTuple table entry srcId) table = .ok final) :
    exists index, (final.mapping (entry, index)).inUse = true := by
  refine foldlM_invariant
    (fun done temp => done ≠ [] -> exists index, (temp.mapping (entry, index)).inUse = true)
    (fun absent => absurd rfl absent) ?_ completed nonempty
  intro done tuple rest temp next _split _reached _before stepped _
  rcases registerTuple_eq_ok stepped with ⟨_fresh, _small, _clear, index, _free, rfl⟩
  refine ⟨index, ?_⟩
  rw [Table.mapping_setBitmap, Table.mapping_setMapping_self]

theorem tuples_ofMessage_ne_nil {message : MsgSendDirectReq2}
    (counted : 1 ≤ (NotifyReq.ofMessage message).count) : (NotifyReq.ofMessage message).tuples ≠ [] := by
  rw [← List.length_pos_iff, NotifyReq.tuples, List.length_take]
  exact Nat.lt_min.mpr ⟨counted, by simp [NotifyReq.ofMessage]⟩

/-- A completed registration keeps the invariant. -/
theorem registered_live {table claimed after : Table} {message : MsgSendDirectReq2}
    {entry : Fin notifyMaxServices} (live : Live table)
    (counted : 1 ≤ (NotifyReq.ofMessage message).count)
    (located : table.findOrCreateEntry (NotifyReq.ofMessage message).receiverUuid = some (entry, claimed))
    (completed : (NotifyReq.ofMessage message).tuples.foldlM
      (registerTuple claimed entry (NotifyReq.ofMessage message).srcId) claimed = .ok after) :
    Live after := by
  rcases Table.findOrCreateEntry_keeps located with ⟨_, inUse_iff, _⟩
  intro other inUse
  by_cases same : other = entry
  · rw [same]
    exact register_live (tuples_ofMessage_ne_nil counted) completed
  · rw [((register_mapping completed).1 other).1] at inUse
    have before : (table.entries other).inUse = true := by
      rcases Table.findOrCreateEntry_cases located with ⟨_, rfl⟩ | ⟨_, _, rfl⟩
      · exact inUse
      · rwa [Table.claimEntry_of_ne table _ same] at inUse
    rcases live other before with ⟨index, mapped⟩
    have stillMapped := ((inUse_iff (other, index)).mpr ⟨before, mapped⟩).2
    refine ⟨index, ?_⟩
    rw [register_keeps completed stillMapped]
    exact stillMapped

/-- A removal that does not drain its entry keeps the invariant. -/
theorem unregistered_live {table after : Table} {message : MsgSendDirectReq2} {id : MessageID}
    {entry : Fin notifyMaxServices} (live : Live table)
    (selected : messageId (NotifyReq.ofMessage message).msgInfo = some id)
    (kind : id = .remove ∨ id = .destroy) (safe : ¬ Drains table message)
    (located : table.nfyFindEntry (NotifyReq.ofMessage message).receiverUuid = some entry)
    (completed : (NotifyReq.ofMessage message).tuples.foldlM
      (unregisterTuple table entry (NotifyReq.ofMessage message).srcId) table = .ok after) :
    Live after := by
  rcases unregister_mapping located completed with ⟨sameEntries, mappings⟩
  refine live.of_sameEntries sameEntries (fun other _inUse ⟨index, mapped⟩ => ?_)
  -- Each entry has a mapping in use that no tuple names.
  obtain ⟨survivor, survives, unnamed⟩ : exists survivor,
      (table.mapping (other, survivor)).inUse = true ∧
        forall tuple, tuple ∈ (NotifyReq.ofMessage message).tuples ->
          table.addressed (NotifyReq.ofMessage message).receiverUuid tuple ≠ some (other, survivor) := by
    by_cases same : other = entry
    · subst same
      by_contra none_survives
      refine safe ⟨?_, other, located, fun index mapped => ?_⟩
      · rw [selected]
        exact kind.imp (congrArg some) (congrArg some)
      · by_contra unnamed
        exact none_survives ⟨index, mapped, fun tuple member named => unnamed ⟨tuple, member, named⟩⟩
    · refine ⟨index, mapped, fun tuple _member named => same ?_⟩
      rw [Table.addressed_of_located located] at named
      rcases Option.map_eq_some_iff.mp named with ⟨_, _, equal⟩
      exact (Prod.mk.inj equal).1.symm
  exact ⟨survivor, by rw [(mappings (other, survivor)).2 unnamed, survives]⟩

theorem step_live {table next : Table} {message : MsgSendDirectReq2} (live : Live table)
    (safe : KeepsEntriesLive table message) (stepped : step table message = some next) : Live next := by
  rcases step_cases stepped with ⟨_, rfl⟩ | ⟨id, status, selected, processed⟩
  · exact live
  · have flags : forall {after : Table},
        Keeps table (NotifyReq.ofMessage message).receiverUuid (NotifyReq.ofMessage message).tuples after ->
        Live after := fun kept => live.of_sameEntries kept.1 (fun entry _ ⟨index, mapped⟩ =>
          ⟨index, (kept.2 (entry, index)).1.1.trans mapped⟩)
    cases process_outcome processed with
    | registered _ counted located completed => exact registered_live live counted located completed
    | unregistered kind located completed =>
        exact unregistered_live live selected kind safe.2 located completed
    | assigned located completed =>
        exact flags (assignMappings_keeps located completed)
    | unassigned located completed =>
        exact flags (unassignMappings_keeps located completed)
    | unchanged => exact live
    | leaked kind counted unknown empty stopped _ =>
        exact absurd (leaks_of_stopped selected kind counted.1 unknown empty stopped) safe.1

theorem step_distinctServices {table next : Table} {message : MsgSendDirectReq2}
    (distinct : DistinctServices table) (stepped : step table message = some next) :
    DistinctServices next := by
  rcases step_cases stepped with ⟨_, rfl⟩ | ⟨id, status, selected, processed⟩
  · exact distinct
  · cases process_outcome processed with
    | registered _ _ located completed =>
        have sameEntries := (register_mapping completed).1
        rcases Table.findOrCreateEntry_cases located with ⟨_, rfl⟩ | ⟨unknown, _, rfl⟩
        · exact distinct.of_sameEntries sameEntries
        · exact (distinct.claimEntry unknown _).of_sameEntries sameEntries
    | unregistered _ located completed =>
        exact distinct.of_sameEntries (unregister_mapping located completed).1
    | assigned located completed =>
        exact distinct.of_sameEntries (assignMappings_keeps located completed).1
    | unassigned located completed =>
        exact distinct.of_sameEntries (unassignMappings_keeps located completed).1
    | unchanged => exact distinct
    | leaked _ _ unknown _ _ _ => exact distinct.claimEntry unknown _

/-! ## A full table -/

/-- The table is full, with a different live service in every entry. -/
def FullOfLiveServices (table : Table) : Prop :=
  (forall entry, (table.entries entry).inUse = true ∧
    exists index, (table.mapping (entry, index)).inUse = true) ∧
  Function.Injective (fun entry => (table.entries entry).serviceUuid)

/-- The request is a registration for a receiver without an entry, and it is
answered with `NoMemory`. -/
def RefusedForSpace (table : Table) (message : MsgSendDirectReq2) : Prop :=
  let req := NotifyReq.ofMessage message
  (messageId req.msgInfo = some .setup ∨ messageId req.msgInfo = some .add) ∧
    table.nfyFindEntry req.receiverUuid = none ∧
    exists response after, ffaMsgSendDirectReq2 table message = some (.ok response, after) ∧
      responseStatus response = ErrorCode.noMemory.toU64

/-- A registration in a claimed entry does not run out of mappings. -/
theorem register_claimed_not_noMemory {table : Table} {entry : Fin notifyMaxServices} {uuid : Uuid}
    {srcId : U16} {tuples : List NotifyTuple} (short : tuples.length ≤ notifyMaxTuplesPerReq) :
    tuples.foldlM (registerTuple (table.claimEntry entry uuid) entry srcId)
      (table.claimEntry entry uuid) ≠ .error (.refused .noMemory) := by
  intro stopped
  rcases exists_of_foldlM_error stopped with ⟨done, tuple, rest, temp, split, reached, stopped⟩
  have remaining : temp.used entry < notifyMaxMappings := by
    have used := register_used reached
    rw [used_claimEntry, Nat.zero_add] at used
    rw [split, List.length_append, List.length_cons] at short
    have bound : notifyMaxTuplesPerReq < notifyMaxMappings := by decide
    omega
  rcases Table.exists_free remaining with ⟨index, free⟩
  rcases registerTuple_eq_error stopped with impossible | ⟨_, full⟩
  · cases impossible
  · have used := full index
    simp [used] at free

/-- A registration for an unknown receiver is refused for lack of memory only
when every entry is in use. -/
theorem entries_inUse_of_refusedForSpace {table : Table} {message : MsgSendDirectReq2}
    (refused : RefusedForSpace table message) (entry : Fin notifyMaxServices) :
    (table.entries entry).inUse = true := by
  rcases refused with ⟨kind, unknown, response, after, handled, status⟩
  rcases ffaMsgSendDirectReq2_cases handled with ⟨_, _, failed⟩ | ⟨id, code, selected, processed, same⟩
  · cases failed
  · cases same
    rw [responseStatus_respond] at status
    have code_eq := ErrorCode.toU64_injective status
    subst code_eq
    have requested : registerRequest table (NotifyReq.ofMessage message) = some (.noMemory, after) := by
      rcases kind with setup | add
      · rw [selected] at setup
        cases setup
        exact processed
      · rw [selected] at add
        cases add
        exact processed
    cases empty : table.nfyFindEmptySlot with
    | none =>
        have used := Fin.eq_false_of_find?_eq_none empty entry
        simpa using used
    | some free =>
        exfalso
        by_cases counted : 1 ≤ (NotifyReq.ofMessage message).count
        · rw [registerRequest_unknown ⟨counted, Nat.min_le_right _ _⟩ unknown empty] at requested
          rcases settle_eq_some requested with ⟨_, impossible⟩ | ⟨stopped, _⟩
          · cases impossible
          · exact register_claimed_not_noMemory (length_tuples_ofMessage message) stopped
        · rw [registerRequest, if_pos (fun both => counted both.1)] at requested
          cases requested

/-- In every run that neither leaks nor drains an entry, every entry in use is
live, and a registration for an unknown receiver is refused for lack of memory
only when sixteen different services are live. -/
theorem live_and_full_only_of_live (messages : List MsgSendDirectReq2) (table : Table)
    (safe : Along step KeepsEntriesLive Table.new messages)
    (reached : run step Table.new messages = some table) :
    Live table ∧ forall message, RefusedForSpace table message -> FullOfLiveServices table := by
  have live : Live table :=
    run_invariant (fun _ _ _ live allowed stepped => step_live live allowed stepped) new_live safe reached
  have distinct : DistinctServices table :=
    run_invariant (fun _ _ _ distinct _ stepped => step_distinctServices distinct stepped)
      new_distinctServices safe reached
  refine ⟨live, fun message refused => ⟨fun entry => ?_, fun left right same => ?_⟩⟩
  · have inUse := entries_inUse_of_refusedForSpace refused entry
    exact ⟨inUse, live entry inUse⟩
  · exact distinct left right (entries_inUse_of_refusedForSpace refused left)
      (entries_inUse_of_refusedForSpace refused right) same

/-- One of two mappings is removed. -/
def partialRemoval : List MsgSendDirectReq2 :=
  [compose 1 7 .setup [⟨1, 3, .global⟩, ⟨2, 4, .global⟩] (by decide),
    compose 1 7 .remove [⟨1, 3, .global⟩] (by decide)]

theorem partialRemoval_live :
    exists table, run step Table.new partialRemoval = some table ∧ (table.entries 0).inUse = true ∧
      Live table ∧ forall message, RefusedForSpace table message -> FullOfLiveServices table := by
  have reached := run_eq_finalState
    (show (run step Table.new partialRemoval).isSome = true by decide +kernel)
  exact ⟨_, reached, by decide +kernel, live_and_full_only_of_live partialRemoval _ (by decide +kernel) reached⟩

/-- The only mapping of a service is removed again. -/
def fullRemoval : List MsgSendDirectReq2 :=
  [compose 1 7 .setup [⟨1, 3, .global⟩] (by decide), compose 1 7 .destroy [⟨1, 3, .global⟩] (by decide)]

/-- An entry stays in use after the last mapping of its service is removed. -/
theorem not_always_live :
    ¬ forall messages table, run step Table.new messages = some table ->
      Live table ∧ forall message, RefusedForSpace table message -> FullOfLiveServices table := by
  intro always
  have reached := run_eq_finalState
    (show (run step Table.new fullRemoval).isSome = true by decide +kernel)
  have empty : ¬ exists index,
      ((finalState step Table.new fullRemoval).mapping (0, index)).inUse = true := by decide +kernel
  exact empty ((always fullRemoval _ reached).1 0 (by decide +kernel))

end Notify
end SecureServices
