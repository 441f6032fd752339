import SecureServices.Notify.Capacity
import SecureServices.Notify.Progress

namespace SecureServices
namespace Notify

open Library Ffa

/-!
# The table stays well formed

Three facts about the table hold in every state of the service, whatever was
sent to it: a service has at most one entry, every stored id has a bit in the
bitmap, and a mapping that is not in use is blank.  The second is what the
statements that could panic rely on.  The third is what a registration relies
on when it is to be undone.
-/

/-- A mapping that is not in use has all its fields at their defaults. -/
def Blank (table : Table) : Prop :=
  forall slot, ¬ table.InUse slot -> table.mapping slot = NfyMapping.default

/-- What holds of the table in every state of the service. -/
structure WellFormed (table : Table) : Prop where
  distinctServices : DistinctServices table
  bounded : Bounded table
  blank : Blank table

/-! ## Blank mappings -/

theorem new_blank : Blank Table.new := fun _ _ => rfl

theorem Blank.claimEntry {table : Table} (blank : Blank table) (entry : Fin notifyMaxServices)
    (uuid : Uuid) : Blank (table.claimEntry entry uuid) := by
  intro slot unused
  by_cases same : slot.1 = entry
  · rw [Table.mapping, same, Table.claimEntry_entry]
  · rw [Table.InUse, Table.mapping, Table.claimEntry_of_ne table uuid same] at unused
    rw [Table.mapping, Table.claimEntry_of_ne table uuid same]
    exact blank slot unused

theorem Blank.findOrCreateEntry {table claimed : Table} (blank : Blank table) {uuid : Uuid}
    {entry : Fin notifyMaxServices}
    (located : table.findOrCreateEntry uuid = some (entry, claimed)) : Blank claimed := by
  rcases Table.findOrCreateEntry_cases located with ⟨_, rfl⟩ | ⟨_, _, rfl⟩
  · exact blank
  · exact blank.claimEntry entry uuid

/-- With the same entries, a mapping that is the same in both tables is in use
in both or in none. -/
theorem Blank.of_unchanged {table after : Table} (blank : Blank table) (same : after.SameEntries table)
    {slot : Slot} (unchanged : after.mapping slot = table.mapping slot)
    (unused : ¬ after.InUse slot) : after.mapping slot = NfyMapping.default := by
  rw [unchanged]
  apply blank slot
  rwa [same.inUse_iff (congrArg NfyMapping.inUse unchanged)] at unused

/-- A registration leaves the mappings that it does not fill as they were. -/
theorem Blank.register {table final : Table} (blank : Blank table) {entry : Fin notifyMaxServices}
    {srcId : U16} {tuples : List NotifyTuple} (inUse : (table.entries entry).inUse = true)
    (completed : tuples.foldlM (registerTuple table entry srcId) table = .ok final) : Blank final := by
  rcases register_mapping completed with ⟨sameEntries, mappings⟩
  intro slot unused
  rcases mappings slot with unchanged | ⟨inEntry, _, tuple, _, filled⟩
  · exact blank.of_unchanged sameEntries unchanged unused
  · refine absurd ⟨?_, ?_⟩ unused
    · rw [(sameEntries slot.1).1, inEntry, inUse]
    · rw [filled]

theorem Blank.unregister {table final : Table} (blank : Blank table) {receiver : Uuid}
    {entry : Fin notifyMaxServices} {srcId : U16} {tuples : List NotifyTuple}
    (located : table.nfyFindEntry receiver = some entry)
    (completed : tuples.foldlM (unregisterTuple table entry srcId) table = .ok final) : Blank final := by
  rcases unregister_mapping located completed with ⟨sameEntries, mappings⟩
  intro slot unused
  by_cases named : exists tuple, tuple ∈ tuples ∧ table.addressed receiver tuple = some slot
  · exact (mappings slot).1 named
  · have unchanged := (mappings slot).2 (fun tuple member same => named ⟨tuple, member, same⟩)
    exact blank.of_unchanged sameEntries unchanged unused

/-- Only mappings in use are addressed, so that both assignment operations
leave the others alone. -/
theorem Blank.of_keeps {table final : Table} (blank : Blank table) {receiver : Uuid}
    {tuples : List NotifyTuple} (kept : Keeps table receiver tuples final) : Blank final := by
  intro slot unused
  rcases kept with ⟨sameEntries, mappings⟩
  have wasUnused : ¬ table.InUse slot := by
    rwa [sameEntries.inUse_iff (mappings slot).1.1] at unused
  have unnamed : forall tuple, tuple ∈ tuples -> table.addressed receiver tuple ≠ some slot :=
    fun _ _ named => wasUnused (Table.addressed_spec named).1
  rw [(mappings slot).2 unnamed]
  exact blank slot wasUnused

theorem step_blank {table next : Table} {message : MsgSendDirectReq2} (blank : Blank table)
    (stepped : step table message = some next) : Blank next := by
  rcases step_cases stepped with ⟨_, rfl⟩ | ⟨id, status, selected, processed⟩
  · exact blank
  · cases process_outcome processed with
    | registered _ _ located completed =>
        exact (blank.findOrCreateEntry located).register
          (Table.findOrCreateEntry_spec located).2 completed
    | unregistered _ located completed => exact blank.unregister located completed
    | assigned located completed => exact blank.of_keeps (assignMappings_keeps located completed)
    | unassigned located completed => exact blank.of_keeps (unassignMappings_keeps located completed)
    | unchanged => exact blank
    | leaked _ _ _ _ _ _ => exact blank.claimEntry _ _

/-! ## The invariant over whole runs -/

theorem WellFormed.new : WellFormed Table.new := ⟨new_distinctServices, Bounded.new, new_blank⟩

/-- A message to a well-formed table is handled, and leaves it well formed. -/
theorem WellFormed.progress {table : Table} (wellFormed : WellFormed table)
    (message : MsgSendDirectReq2) :
    exists next, step table message = some next ∧ WellFormed next := by
  rcases ffaMsgSendDirectReq2_progress wellFormed.bounded message with ⟨result, next, handled, bounded, _⟩
  have stepped : step table message = some next := by
    rw [step, handled, Option.map_some]
  exact ⟨next, stepped, step_distinctServices wellFormed.distinctServices stepped, bounded,
    step_blank wellFormed.blank stepped⟩

/-- Every state of the service is well formed. -/
theorem wellFormed_of_reached {messages : List MsgSendDirectReq2} {table : Table}
    (reached : run step Table.new messages = some table) : WellFormed table := by
  rcases run_completes (fun _ message wellFormed => wellFormed.progress message) WellFormed.new
    messages with ⟨final, same, wellFormed⟩
  cases reached.symm.trans same
  exact wellFormed

/-- Every run of the service completes in a well-formed table, and every
message that may come next is handled. -/
theorem run_wellFormed (messages : List MsgSendDirectReq2) :
    exists table, run step Table.new messages = some table ∧ WellFormed table ∧
      forall message, (ffaMsgSendDirectReq2 table message).isSome = true := by
  rcases run_completes (fun _ message wellFormed => wellFormed.progress message) WellFormed.new
    messages with ⟨table, reached, wellFormed⟩
  refine ⟨table, reached, wellFormed, fun message => ?_⟩
  rcases ffaMsgSendDirectReq2_progress wellFormed.bounded message with ⟨result, next, handled, _⟩
  rw [handled, Option.isSome_some]

end Notify
end SecureServices
