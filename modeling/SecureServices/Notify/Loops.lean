import SecureServices.Notify.Outcome

namespace SecureServices
namespace Notify

open Library Ffa

/-!
# What a completed loop does to the mappings

A tuple names a mapping by its cookie, in the entry of the receiver.  The
lemmas below say, for each of the four loops, which mappings of the final
table differ from those of the table it started from, and how.  The entries
themselves keep their flag and their service in every loop.
-/

namespace Table

/-- The slot that a tuple of a request names. -/
def addressed (table : Table) (receiver : Uuid) (tuple : NotifyTuple) : Option Slot :=
  (table.nfyFindEntry receiver).bind (fun entry =>
    (table.nfyFindMatchingCookie entry tuple.cookie).map (fun index => (entry, index)))

theorem addressed_of_located {table : Table} {receiver : Uuid} {entry : Fin notifyMaxServices}
    (located : table.nfyFindEntry receiver = some entry) (tuple : NotifyTuple) :
    table.addressed receiver tuple =
      (table.nfyFindMatchingCookie entry tuple.cookie).map (fun index => (entry, index)) := by
  rw [addressed, located, Option.bind_some]

/-- The found index, as the addressed slot. -/
theorem addressed_eq_some {table : Table} {receiver : Uuid} {entry : Fin notifyMaxServices}
    {tuple : NotifyTuple} {index : Fin notifyMaxMappings}
    (located : table.nfyFindEntry receiver = some entry)
    (found : table.nfyFindMatchingCookie entry tuple.cookie = some index) :
    table.addressed receiver tuple = some (entry, index) := by
  rw [addressed_of_located located, found, Option.map_some]

/-- An addressed mapping is in use, and has the cookie of its tuple. -/
theorem addressed_spec {table : Table} {receiver : Uuid} {tuple : NotifyTuple} {slot : Slot}
    (named : table.addressed receiver tuple = some slot) :
    table.InUse slot ∧ (table.mapping slot).cookie = tuple.cookie := by
  rcases Option.bind_eq_some_iff.mp named with ⟨entry, located, named⟩
  rcases Option.map_eq_some_iff.mp named with ⟨index, found, rfl⟩
  have entrySpec := nfyFindEntry_spec located
  have mappingSpec := nfyFindMatchingCookie_spec found
  exact ⟨⟨entrySpec.2, mappingSpec.1⟩, mappingSpec.2⟩

/-- Every entry has the same flag and the same service in both tables. -/
def SameEntries (left right : Table) : Prop :=
  forall entry, (left.entries entry).inUse = (right.entries entry).inUse ∧
    (left.entries entry).serviceUuid = (right.entries entry).serviceUuid

theorem SameEntries.refl (table : Table) : SameEntries table table := fun _ => ⟨rfl, rfl⟩

theorem SameEntries.set {left right : Table} (same : SameEntries left right) (slot : Slot)
    (mapping : NfyMapping) (bitmap : U64) :
    SameEntries ((left.setMapping slot mapping).setBitmap bitmap) right := by
  intro entry
  rw [entries_setBitmap, inUse_setMapping, serviceUuid_setMapping]
  exact same entry

/-- With the entries the same, a mapping is in use when its own flag says so. -/
theorem SameEntries.inUse_iff {left right : Table} (same : SameEntries left right) {slot : Slot}
    (flag : (left.mapping slot).inUse = (right.mapping slot).inUse) :
    left.InUse slot <-> right.InUse slot := by
  rw [InUse, InUse, (same slot.1).1, flag]

/-! ## Locating the entry of a registration -/

/-- The entry of a known service, or a fresh one for an unknown service. -/
theorem findOrCreateEntry_cases {table claimed : Table} {uuid : Uuid} {entry : Fin notifyMaxServices}
    (located : table.findOrCreateEntry uuid = some (entry, claimed)) :
    (table.nfyFindEntry uuid = some entry ∧ claimed = table) ∨
    (table.nfyFindEntry uuid = none ∧ table.nfyFindEmptySlot = some entry ∧
      claimed = table.claimEntry entry uuid) := by
  unfold findOrCreateEntry at located
  cases known : table.nfyFindEntry uuid with
  | some index =>
      rw [known] at located
      cases located
      exact Or.inl ⟨rfl, rfl⟩
  | none =>
      rw [known] at located
      rcases Option.map_eq_some_iff.mp located with ⟨index, empty, same⟩
      cases same
      exact Or.inr ⟨rfl, empty, rfl⟩

theorem findOrCreateEntry_of_unknown {table : Table} {uuid : Uuid} {entry : Fin notifyMaxServices}
    (unknown : table.nfyFindEntry uuid = none) (empty : table.nfyFindEmptySlot = some entry) :
    table.findOrCreateEntry uuid = some (entry, table.claimEntry entry uuid) := by
  unfold findOrCreateEntry
  split
  next known => rw [unknown] at known; cases known
  next => rw [empty, Option.map_some]

theorem claimEntry_entry (table : Table) (entry : Fin notifyMaxServices) (uuid : Uuid) :
    (table.claimEntry entry uuid).entries entry = ⟨uuid, true, fun _ => NfyMapping.default⟩ :=
  Function.update_self ..

theorem claimEntry_of_ne (table : Table) {entry other : Fin notifyMaxServices} (uuid : Uuid)
    (different : other ≠ entry) : (table.claimEntry entry uuid).entries other = table.entries other :=
  Function.update_of_ne different ..

/-- The located entry is in use, for the service that was asked for. -/
theorem findOrCreateEntry_spec {table claimed : Table} {uuid : Uuid} {entry : Fin notifyMaxServices}
    (located : table.findOrCreateEntry uuid = some (entry, claimed)) :
    (claimed.entries entry).serviceUuid = uuid ∧ (claimed.entries entry).inUse = true := by
  rcases findOrCreateEntry_cases located with ⟨known, rfl⟩ | ⟨_, _, rfl⟩
  · exact nfyFindEntry_spec known
  · rw [claimEntry_entry]
    exact ⟨rfl, rfl⟩

/-- Claiming a free entry takes no mapping into or out of use. -/
theorem claimEntry_inUse {table : Table} {entry : Fin notifyMaxServices}
    (empty : table.nfyFindEmptySlot = some entry) (uuid : Uuid) (slot : Slot) :
    (table.claimEntry entry uuid).InUse slot <-> table.InUse slot := by
  by_cases same : slot.1 = entry
  · simp [InUse, mapping, same, claimEntry_entry, NfyMapping.default, nfyFindEmptySlot_spec empty]
  · rw [InUse, InUse, mapping, mapping, claimEntry_of_ne table uuid same]

theorem claimEntry_mapping {table : Table} {entry : Fin notifyMaxServices}
    (empty : table.nfyFindEmptySlot = some entry) (uuid : Uuid) {slot : Slot}
    (inUse : table.InUse slot) : (table.claimEntry entry uuid).mapping slot = table.mapping slot := by
  have different : slot.1 ≠ entry := by
    intro same
    have free := nfyFindEmptySlot_spec empty
    rw [← same, inUse.1] at free
    cases free
  rw [mapping, mapping, claimEntry_of_ne table uuid different]

/-- Locating an entry keeps every mapping in use, takes no other into use and
leaves the bitmap alone. -/
theorem findOrCreateEntry_keeps {table claimed : Table} {uuid : Uuid} {entry : Fin notifyMaxServices}
    (located : table.findOrCreateEntry uuid = some (entry, claimed)) :
    claimed.globalBitmap = table.globalBitmap ∧
      (forall slot, claimed.InUse slot <-> table.InUse slot) ∧
      forall slot, table.InUse slot -> claimed.mapping slot = table.mapping slot := by
  rcases findOrCreateEntry_cases located with ⟨_, rfl⟩ | ⟨_, empty, rfl⟩
  · exact ⟨rfl, fun _ => Iff.rfl, fun _ _ => rfl⟩
  · exact ⟨rfl, claimEntry_inUse empty uuid, fun _ => claimEntry_mapping empty uuid⟩

end Table

/-! ## Bits and cookies -/

/-- The ids that a bitmap records as taken. -/
def taken (bitmap : U64) (id : U16) : Prop := bitmap.getLsbD id.toNat = true

instance (bitmap : U64) (id : U16) : Decidable (taken bitmap id) :=
  inferInstanceAs (Decidable (_ = true))

theorem taken_clearBit (bitmap : U64) (id other : U16) :
    taken (clearBit bitmap id) other <-> taken bitmap other ∧ other ≠ id := by
  by_cases small : id.toNat < 64
  · rw [clearBit_of_lt bitmap small, taken, getLsbD_and_not_bitAt small, Bool.and_eq_true]
    simp [taken, BitVec.toNat_inj]
  · have beyond : nfyBitmask id = none := if_neg small
    rw [clearBit, beyond]
    refine ⟨fun bit => ⟨bit, fun same => ?_⟩, And.left⟩
    rw [same, taken, BitVec.getLsbD_of_ge bitmap id.toNat (Nat.le_of_not_lt small)] at bit
    cases bit

theorem taken_setBit (bitmap : U64) {id : U16} (small : id.toNat < 64) (other : U16) :
    taken (bitmap ||| bitAt 64 id.toNat) other <-> taken bitmap other ∨ other = id := by
  rw [taken, getLsbD_or_bitAt small, Bool.or_eq_true]
  simp [taken, BitVec.toNat_inj]

/-- Distinct cookies name distinct mappings: no earlier tuple names the slot
of a later one. -/
theorem unnamed_by_earlier {table : Table} {req : NotifyReq} {done rest : List NotifyTuple} {slot : Slot}
    (distinct : req.DistinctCookies) (split : req.tuples = done ++ rest)
    {later : NotifyTuple} (member : later ∈ rest)
    (named : table.addressed req.receiverUuid later = some slot) :
    forall earlier, earlier ∈ done -> table.addressed req.receiverUuid earlier ≠ some slot := by
  intro earlier before alsoNamed
  have sameCookie : earlier.cookie = later.cookie :=
    (Table.addressed_spec alsoNamed).2.symm.trans (Table.addressed_spec named).2
  unfold NotifyReq.DistinctCookies at distinct
  rw [split, List.map_append] at distinct
  exact (List.nodup_append.mp distinct).2.2 _ (List.mem_map_of_mem before) _
    (List.mem_map_of_mem member) sameCookie

/-! ## Registration -/

/-- A completed registration leaves every mapping as it was, or fills one
that was free with the data of one of its tuples. -/
theorem register_mapping {table final : Table} {entry : Fin notifyMaxServices} {srcId : U16}
    {tuples : List NotifyTuple}
    (completed : tuples.foldlM (registerTuple table entry srcId) table = .ok final) :
    final.SameEntries table ∧ forall slot, final.mapping slot = table.mapping slot ∨
      slot.1 = entry ∧ (table.mapping slot).inUse = false ∧
        exists tuple, tuple ∈ tuples ∧
          final.mapping slot = ⟨tuple.cookie, tuple.id, tuple.ntype, srcId, true⟩ := by
  refine foldlM_invariant
    (fun done temp => temp.SameEntries table ∧
      forall slot, temp.mapping slot = table.mapping slot ∨
        slot.1 = entry ∧ (table.mapping slot).inUse = false ∧
          exists tuple, tuple ∈ done ∧
            temp.mapping slot = ⟨tuple.cookie, tuple.id, tuple.ntype, srcId, true⟩)
    ⟨Table.SameEntries.refl table, fun _ => Or.inl rfl⟩ ?_ completed
  intro done tuple rest temp next _split _reached holds stepped
  rcases registerTuple_eq_ok stepped with ⟨_fresh, _small, _clear, index, free, rfl⟩
  refine ⟨holds.1.set _ _ _, fun slot => ?_⟩
  rw [Table.mapping_setBitmap]
  by_cases same : slot = (entry, index)
  · subst same
    rw [Table.mapping_setMapping_self]
    rcases holds.2 (entry, index) with unchanged | ⟨_, _, earlier, _, filled⟩
    · exact Or.inr ⟨rfl, unchanged ▸ free, tuple, by simp, rfl⟩
    · rw [filled] at free
      cases free
  · rw [Table.mapping_setMapping_of_ne temp _ same]
    rcases holds.2 slot with unchanged | ⟨inEntry, wasFree, earlier, member, filled⟩
    · exact Or.inl unchanged
    · exact Or.inr ⟨inEntry, wasFree, earlier, List.mem_append_left _ member, filled⟩

/-- A registration does not touch a mapping that was in use. -/
theorem register_keeps {table final : Table} {entry : Fin notifyMaxServices} {srcId : U16}
    {tuples : List NotifyTuple}
    (completed : tuples.foldlM (registerTuple table entry srcId) table = .ok final) {slot : Slot}
    (inUse : (table.mapping slot).inUse = true) : final.mapping slot = table.mapping slot := by
  refine ((register_mapping completed).2 slot).resolve_right ?_
  rintro ⟨_, free, _⟩
  rw [inUse] at free
  cases free

/-! ## The operations that look mappings up by cookie -/

/-- A completed removal blanks every mapping that a tuple names, and leaves
every other mapping as it was. -/
theorem unregister_mapping {table final : Table} {receiver : Uuid} {entry : Fin notifyMaxServices}
    {srcId : U16} {tuples : List NotifyTuple} (located : table.nfyFindEntry receiver = some entry)
    (completed : tuples.foldlM (unregisterTuple table entry srcId) table = .ok final) :
    final.SameEntries table ∧ forall slot,
      ((exists tuple, tuple ∈ tuples ∧ table.addressed receiver tuple = some slot) ->
        final.mapping slot = NfyMapping.default) ∧
      ((forall tuple, tuple ∈ tuples -> table.addressed receiver tuple ≠ some slot) ->
        final.mapping slot = table.mapping slot) := by
  refine foldlM_invariant
    (fun done temp => temp.SameEntries table ∧ forall slot,
      ((exists tuple, tuple ∈ done ∧ table.addressed receiver tuple = some slot) ->
        temp.mapping slot = NfyMapping.default) ∧
      ((forall tuple, tuple ∈ done -> table.addressed receiver tuple ≠ some slot) ->
        temp.mapping slot = table.mapping slot))
    ⟨Table.SameEntries.refl table, fun _ => ⟨by simp, fun _ => rfl⟩⟩ ?_ completed
  intro done tuple rest temp next _split _reached holds stepped
  rcases unregisterTuple_eq_ok stepped with ⟨index, found, _, _, _, _, rfl⟩
  have named := Table.addressed_eq_some located found
  refine ⟨holds.1.set _ _ _, fun slot => ?_⟩
  rw [Table.mapping_setBitmap]
  by_cases same : slot = (entry, index)
  · subst same
    refine ⟨fun _ => Table.mapping_setMapping_self .., fun unnamed => ?_⟩
    exact absurd named (unnamed tuple (by simp))
  · rw [Table.mapping_setMapping_of_ne temp _ same]
    refine ⟨fun ⟨other, member, otherNamed⟩ => ?_, fun unnamed => ?_⟩
    · rcases List.mem_append.mp member with earlier | last
      · exact (holds.2 slot).1 ⟨other, earlier, otherNamed⟩
      · rw [List.mem_singleton.mp last, named] at otherNamed
        exact absurd (Option.some.inj otherNamed).symm same
    · exact (holds.2 slot).2 (fun other member => unnamed other (List.mem_append_left _ member))

/-- What the second passes of both assignment operations keep: flag, cookie
and source of every mapping, and all of a mapping that no tuple names. -/
def Keeps (table : Table) (receiver : Uuid) (tuples : List NotifyTuple) (temp : Table) : Prop :=
  temp.SameEntries table ∧ forall slot,
    ((temp.mapping slot).inUse = (table.mapping slot).inUse ∧
      (temp.mapping slot).cookie = (table.mapping slot).cookie ∧
      (temp.mapping slot).srcId = (table.mapping slot).srcId) ∧
    ((forall tuple, tuple ∈ tuples -> table.addressed receiver tuple ≠ some slot) ->
      temp.mapping slot = table.mapping slot)

theorem Keeps.start (table : Table) (receiver : Uuid) : Keeps table receiver [] table :=
  ⟨Table.SameEntries.refl table, fun _ => ⟨⟨rfl, rfl, rfl⟩, fun _ => rfl⟩⟩

/-- The lookups of the second pass find what those of the first pass found. -/
theorem Keeps.lookup {table temp : Table} {receiver : Uuid} {tuples : List NotifyTuple}
    (kept : Keeps table receiver tuples temp) (entry : Fin notifyMaxServices) (cookie : U32) :
    temp.nfyFindMatchingCookie entry cookie = table.nfyFindMatchingCookie entry cookie :=
  Table.nfyFindMatchingCookie_congr
    (fun index => ⟨(kept.2 (entry, index)).1.1, (kept.2 (entry, index)).1.2.1⟩) cookie

/-- Overwriting id and type of the named mapping, as both passes do. -/
theorem Keeps.rewrite {table temp : Table} {receiver : Uuid} {done : List NotifyTuple}
    (kept : Keeps table receiver done temp) {tuple : NotifyTuple} {slot : Slot}
    (named : table.addressed receiver tuple = some slot) (id : U16) (ntype : NotifyType)
    (bitmap : U64) :
    Keeps table receiver (done ++ [tuple])
      ((temp.setMapping slot { temp.mapping slot with id, ntype }).setBitmap bitmap) := by
  refine ⟨kept.1.set _ _ _, fun other => ?_⟩
  rw [Table.mapping_setBitmap]
  by_cases same : other = slot
  · subst same
    rw [Table.mapping_setMapping_self]
    exact ⟨(kept.2 other).1, fun unnamed => absurd named (unnamed tuple (by simp))⟩
  · rw [Table.mapping_setMapping_of_ne temp _ same]
    exact ⟨(kept.2 other).1, fun unnamed => (kept.2 other).2
      (fun earlier member => unnamed earlier (List.mem_append_left _ member))⟩

theorem assignApply_keeps {table final : Table} {receiver : Uuid} {entry : Fin notifyMaxServices}
    {tuples : List NotifyTuple} (located : table.nfyFindEntry receiver = some entry)
    (completed : tuples.foldlM (assignApply entry) table = .ok final) :
    Keeps table receiver tuples final := by
  refine foldlM_invariant (Keeps table receiver) (Keeps.start table receiver) ?_ completed
  intro done tuple rest temp next _split _reached kept stepped
  rcases assignApply_eq_ok stepped with ⟨index, found, rfl⟩
  rw [kept.lookup] at found
  exact kept.rewrite (Table.addressed_eq_some located found) tuple.id tuple.ntype temp.globalBitmap

theorem unassignApply_keeps {table final : Table} {receiver : Uuid} {entry : Fin notifyMaxServices}
    {tuples : List NotifyTuple} (located : table.nfyFindEntry receiver = some entry)
    (completed : tuples.foldlM (unassignApply entry) table = .ok final) :
    Keeps table receiver tuples final := by
  refine foldlM_invariant (Keeps table receiver) (Keeps.start table receiver) ?_ completed
  intro done tuple rest temp next _split _reached kept stepped
  rcases unassignApply_eq_ok stepped with ⟨index, found, rfl⟩
  rw [kept.lookup] at found
  exact kept.rewrite (Table.addressed_eq_some located found) 0 .global _

theorem assignMappings_keeps {table final : Table} {receiver : Uuid} {entry : Fin notifyMaxServices}
    {tuples : List NotifyTuple} (located : table.nfyFindEntry receiver = some entry)
    (completed : assignMappings table entry tuples = .ok final) :
    Keeps table receiver tuples final := by
  rcases assignMappings_eq_ok completed with ⟨simBitmap, applied, _checked, stored, rfl⟩
  have kept := assignApply_keeps located stored
  exact kept

theorem unassignMappings_keeps {table final : Table} {receiver : Uuid} {entry : Fin notifyMaxServices}
    {tuples : List NotifyTuple} (located : table.nfyFindEntry receiver = some entry)
    (completed : unassignMappings table entry tuples = .ok final) :
    Keeps table receiver tuples final :=
  unassignApply_keeps located (unassignMappings_eq_ok completed)

/-- An unassigned mapping stores the id 0. -/
theorem unassignApply_named {table final : Table} {receiver : Uuid} {entry : Fin notifyMaxServices}
    {tuples : List NotifyTuple} {slot : Slot} (located : table.nfyFindEntry receiver = some entry)
    (completed : tuples.foldlM (unassignApply entry) table = .ok final)
    (named : exists tuple, tuple ∈ tuples ∧ table.addressed receiver tuple = some slot) :
    (final.mapping slot).id = 0 := by
  refine foldlM_invariant
    (fun done temp => (exists tuple, tuple ∈ done ∧ table.addressed receiver tuple = some slot) ->
      (temp.mapping slot).id = 0) (by simp) ?_ completed named
  rintro done tuple rest temp next _split reached holds stepped ⟨other, member, otherNamed⟩
  rcases unassignApply_eq_ok stepped with ⟨index, found, rfl⟩
  rw [(unassignApply_keeps located reached).lookup] at found
  rw [Table.mapping_setBitmap]
  by_cases same : slot = (entry, index)
  · rw [same, Table.mapping_setMapping_self]
  · rw [Table.mapping_setMapping_of_ne temp _ same]
    refine holds ⟨other, (List.mem_append.mp member).resolve_right (fun last => ?_), otherNamed⟩
    rw [List.mem_singleton.mp last, Table.addressed_eq_some located found] at otherNamed
    exact same (Option.some.inj otherNamed).symm

end Notify
end SecureServices
