import SecureServices.Notify.Holding
import SecureServices.Notify.Undo

namespace SecureServices
namespace Notify

open Library Ffa

/-!
# What the requests by cookie do to the bitmap

An assignment or a removal should move the bits of the mappings that it
addresses and no others: the ids stored before are given up, and the ids
stored afterwards are taken.  As long as no id has been unassigned, the bitmap
has exactly the ids that the mappings in use store, and this is what happens
when every mapping is addressed once.

The tuples of a request are compared with the table as it was.  A mapping that
is addressed again still counts with the id it had at first, so that the id an
earlier tuple gave to it keeps its bit for ever.  A removal finds the blanked
copy of a mapping that is addressed again, takes it for one with the id 0, and
clears that bit.
-/

/-- Some tuple of the request names the mapping. -/
def Addresses (table : Table) (req : NotifyReq) (slot : Slot) : Prop :=
  exists tuple, tuple ∈ req.tuples ∧ table.addressed req.receiverUuid tuple = some slot

/-- The bits after a request are those before it, without the ids that the
addressed mappings stored before and with those that they store afterwards if
they are still in use. -/
def Accounted (before : Table) (req : NotifyReq) (after : Table) : Prop :=
  forall id, taken after.globalBitmap id <->
    (taken before.globalBitmap id ∧
      ¬ exists slot, Addresses before req slot ∧ (before.mapping slot).id = id) ∨
    exists slot, Addresses before req slot ∧ after.InUse slot ∧ (after.mapping slot).id = id

/-- A tuple whose cookie occurs again later in the request gives its mapping
the id that the mapping stores already. -/
def Regives (table : Table) (receiver : Uuid) (earlier later : NotifyTuple) : Prop :=
  earlier.cookie = later.cookie -> forall slot, table.addressed receiver earlier = some slot ->
    (table.mapping slot).id = earlier.id

/-- The condition on an assignment. -/
def AssignSettled (table : Table) (req : NotifyReq) : Prop :=
  req.tuples.Pairwise (Regives table req.receiverUuid)

/-- The condition on a removal: a tuple with the id 0 is there for a mapping
that stores it, or the bit of that id is clear anyway. -/
def RemovalSettled (table : Table) (req : NotifyReq) : Prop :=
  taken table.globalBitmap 0 -> (exists tuple, tuple ∈ req.tuples ∧ tuple.id = 0) ->
    exists slot, Addresses table req slot ∧ (table.mapping slot).id = 0

/-! ## Tables whose bitmap has the stored ids -/

/-- What every mapping stores. -/
def stores (table : Table) (slot : Slot) : Option U16 := some (table.mapping slot).id

/-- The mappings in use store different ids, and these have their bits. -/
def ExactIds (table : Table) : Prop := Sound table (stores table)

theorem Sound.of_agree {table : Table} {holds other : Slot -> Option U16} (sound : Sound table holds)
    (agree : forall slot, table.InUse slot -> other slot = holds slot) : Sound table other := by
  have sameHolder : holder table other = holder table holds := by
    funext slot
    by_cases inUse : table.InUse slot
    · rw [holder_of_inUse inUse, holder_of_inUse inUse, agree slot inUse]
    · rw [holder, holder, if_neg inUse, if_neg inUse]
  constructor
  · rw [sameHolder]
    exact sound.inStep
  · intro slot inUse
    rw [agree slot inUse]
    exact sound.stored slot inUse

/-- With the same mappings in use, each as it was, the ids are as exact as
before. -/
theorem ExactIds.of_sound {table after : Table} (sound : Sound after (stores table))
    (same : forall slot, after.InUse slot -> after.mapping slot = table.mapping slot) :
    ExactIds after := by
  apply sound.of_agree
  intro slot inUse
  rw [stores, stores, same slot inUse]

theorem ExactIds.taken_iff {table : Table} (exact : ExactIds table) (id : U16) :
    taken table.globalBitmap id <-> exists slot, table.InUse slot ∧ (table.mapping slot).id = id := by
  have held := exact.inStep.taken_iff (fun _ => not_false) id
  rw [held]
  constructor
  · rintro ⟨slot, holds⟩
    by_cases inUse : table.InUse slot
    · rw [holder_of_inUse inUse] at holds
      exact ⟨slot, inUse, Option.some.inj holds⟩
    · rw [holder, if_neg inUse] at holds
      cases holds
  · rintro ⟨slot, inUse, rfl⟩
    exact ⟨slot, holder_of_inUse inUse _⟩

theorem ExactIds.exclusive {table : Table} (exact : ExactIds table) {left right : Slot}
    (leftInUse : table.InUse left) (rightInUse : table.InUse right)
    (same : (table.mapping left).id = (table.mapping right).id) : left = right := by
  apply exact.inStep.exclusive left right (table.mapping right).id
  · rw [holder_of_inUse leftInUse, stores, same]
  · rw [holder_of_inUse rightInUse, stores]

theorem ExactIds.of_held {table : Table}
    (exclusive : forall left right, table.InUse left -> table.InUse right ->
      (table.mapping left).id = (table.mapping right).id -> left = right)
    (exact : forall id, taken table.globalBitmap id <->
      exists slot, table.InUse slot ∧ (table.mapping slot).id = id) : ExactIds table := by
  have held : forall slot id, holder table (stores table) slot = some id <->
      table.InUse slot ∧ (table.mapping slot).id = id := by
    intro slot id
    by_cases inUse : table.InUse slot <;> simp [holder, stores, inUse]
  refine ⟨⟨fun left right id leftHolds rightHolds => ?_, fun id bit => ?_, fun slot id holds => ?_⟩,
    fun _ _ => rfl⟩
  · rw [held] at leftHolds rightHolds
    exact exclusive left right leftHolds.1 rightHolds.1 (leftHolds.2.trans rightHolds.2.symm)
  · rcases (exact id).mp bit with ⟨slot, stored⟩
    exact ⟨slot, (held slot id).mpr stored⟩
  · exact Or.inl ((exact id).mpr ⟨slot, (held slot id).mp holds⟩)

/-- An addressed mapping is in use. -/
theorem Addresses.inUse {table : Table} {req : NotifyReq} {slot : Slot}
    (addresses : Addresses table req slot) : table.InUse slot := by
  rcases addresses with ⟨tuple, _, named⟩
  exact (Table.addressed_spec named).1

/-- A request that touches only what it addresses, and keeps the ids exact,
has its bits accounted for. -/
theorem ExactIds.accounted {table after : Table} {req : NotifyReq} (exact : ExactIds table)
    (exactAfter : ExactIds after)
    (frame : forall slot, ¬ Addresses table req slot ->
      (after.InUse slot <-> table.InUse slot) ∧ after.mapping slot = table.mapping slot) :
    Accounted table req after := by
  intro id
  constructor
  · intro bit
    rcases (exactAfter.taken_iff id).mp bit with ⟨slot, inUse, same⟩
    by_cases addresses : Addresses table req slot
    · exact Or.inr ⟨slot, addresses, inUse, same⟩
    · rcases frame slot addresses with ⟨inUse_iff, unchanged⟩
      rw [unchanged] at same
      have wasInUse := inUse_iff.mp inUse
      refine Or.inl ⟨(exact.taken_iff id).mpr ⟨slot, wasInUse, same⟩, ?_⟩
      rintro ⟨other, addressesOther, otherSame⟩
      have equal := exact.exclusive addressesOther.inUse wasInUse (otherSame.trans same.symm)
      exact addresses (equal ▸ addressesOther)
  · rintro (⟨bit, unaddressed⟩ | ⟨slot, _, inUse, same⟩)
    · rcases (exact.taken_iff id).mp bit with ⟨slot, inUse, same⟩
      have other : ¬ Addresses table req slot := fun addresses => unaddressed ⟨slot, addresses, same⟩
      rcases frame slot other with ⟨inUse_iff, unchanged⟩
      exact (exactAfter.taken_iff id).mpr ⟨slot, inUse_iff.mpr inUse, by rw [unchanged, same]⟩
    · exact (exactAfter.taken_iff id).mpr ⟨slot, inUse, same⟩

/-! ## Removals -/

section Removal

variable {table final : Table} {req : NotifyReq} {entry : Fin notifyMaxServices}
  (located : table.nfyFindEntry req.receiverUuid = some entry)
  (completed : req.tuples.foldlM (unregisterTuple table entry req.srcId) table = .ok final)
include located completed

/-- A tuple of a removal has the id of the mapping it names, or it names one
again that is blank already and has the id 0. -/
theorem unregister_ids :
    (forall tuple, tuple ∈ req.tuples -> tuple.id = 0 ∨
      exists slot, Addresses table req slot ∧ (table.mapping slot).id = tuple.id) ∧
    forall slot, Addresses table req slot ->
      exists tuple, tuple ∈ req.tuples ∧ tuple.id = (table.mapping slot).id := by
  have visited := foldlM_invariant
    (fun done (_ : Table) =>
      (forall tuple, tuple ∈ done -> tuple.id = 0 ∨ exists slot,
        table.addressed req.receiverUuid tuple = some slot ∧ (table.mapping slot).id = tuple.id) ∧
      forall slot, (exists tuple, tuple ∈ done ∧ table.addressed req.receiverUuid tuple = some slot) ->
        exists tuple, tuple ∈ done ∧ tuple.id = (table.mapping slot).id)
    ⟨by simp, by simp⟩ ?_ completed
  · refine ⟨fun tuple member => (visited.1 tuple member).imp_right ?_, visited.2⟩
    rintro ⟨slot, named, same⟩
    exact ⟨slot, ⟨tuple, member, named⟩, same⟩
  · intro done tuple rest temp next _split reached holds stepped
    rcases unregisterTuple_eq_ok stepped with ⟨index, found, sameId, _⟩
    have named := Table.addressed_eq_some located found
    have mappings := (unregister_mapping located reached).2 (entry, index)
    by_cases again : exists earlier, earlier ∈ done ∧
        table.addressed req.receiverUuid earlier = some (entry, index)
    · have zero : tuple.id = 0 := by
        rw [← sameId, mappings.1 again]
        rfl
      refine ⟨fun other member => ?_, fun slot visits => ?_⟩
      · rcases List.mem_append.mp member with earlier | last
        · exact holds.1 other earlier
        · rw [List.mem_singleton.mp last]
          exact Or.inl zero
      · have before : exists earlier, earlier ∈ done ∧
            table.addressed req.receiverUuid earlier = some slot := by
          rcases visits with ⟨other, member, otherNamed⟩
          rcases List.mem_append.mp member with earlier | last
          · exact ⟨other, earlier, otherNamed⟩
          · rw [List.mem_singleton.mp last, named] at otherNamed
            exact Option.some.inj otherNamed ▸ again
        rcases holds.2 slot before with ⟨other, member, same⟩
        exact ⟨other, List.mem_append_left _ member, same⟩
    · have unchanged := mappings.2 (fun earlier member same => again ⟨earlier, member, same⟩)
      rw [unchanged] at sameId
      refine ⟨fun other member => ?_, fun slot visits => ?_⟩
      · rcases List.mem_append.mp member with earlier | last
        · exact holds.1 other earlier
        · rw [List.mem_singleton.mp last]
          exact Or.inr ⟨(entry, index), named, sameId⟩
      · rcases visits with ⟨other, member, otherNamed⟩
        rcases List.mem_append.mp member with earlier | last
        · rcases holds.2 slot ⟨other, earlier, otherNamed⟩ with ⟨giver, member, same⟩
          exact ⟨giver, List.mem_append_left _ member, same⟩
        · rw [List.mem_singleton.mp last, named] at otherNamed
          cases otherNamed
          exact ⟨tuple, by simp, sameId.symm⟩

/-- No addressed mapping is in use after a removal. -/
theorem unregister_unused {slot : Slot} (addresses : Addresses table req slot) :
    ¬ final.InUse slot := by
  intro inUse
  have blank := ((unregister_mapping located completed).2 slot).1 addresses
  rw [Table.InUse, blank] at inUse
  cases inUse.2

/-- The bits of a removal are accounted for exactly when it is settled. -/
theorem unregister_accounted_iff : Accounted table req final <-> RemovalSettled table req := by
  rcases unregister_ids located completed with ⟨given, covered⟩
  have bits := unregister_taken completed
  constructor
  · rintro accounted bit ⟨tuple, member, zero⟩
    by_contra none
    have kept : taken final.globalBitmap 0 := (accounted 0).mpr (Or.inl ⟨bit, none⟩)
    exact ((bits 0).mp kept).2 (List.mem_map.mpr ⟨tuple, member, zero⟩)
  · intro settled id
    rw [bits id]
    constructor
    · rintro ⟨bit, unnamed⟩
      refine Or.inl ⟨bit, ?_⟩
      rintro ⟨slot, addresses, same⟩
      rcases covered slot addresses with ⟨tuple, member, sameId⟩
      exact unnamed (List.mem_map.mpr ⟨tuple, member, sameId.trans same⟩)
    · rintro (⟨bit, unaddressed⟩ | ⟨slot, addresses, inUse, _⟩)
      · refine ⟨bit, fun listed => ?_⟩
        rcases List.mem_map.mp listed with ⟨tuple, member, rfl⟩
        rcases given tuple member with zero | stored
        · rw [zero] at bit unaddressed
          exact unaddressed (settled bit ⟨tuple, member, zero⟩)
        · exact unaddressed stored
      · exact absurd inUse (unregister_unused located completed addresses)

/-- What a removal does not address is as it was. -/
theorem unregister_frame {slot : Slot} (unaddressed : ¬ Addresses table req slot) :
    (final.InUse slot <-> table.InUse slot) ∧ final.mapping slot = table.mapping slot := by
  rcases unregister_mapping located completed with ⟨sameEntries, mappings⟩
  have unchanged := (mappings slot).2 (fun tuple member named => unaddressed ⟨tuple, member, named⟩)
  exact ⟨sameEntries.inUse_iff (congrArg NfyMapping.inUse unchanged), unchanged⟩

/-- A removal whose bits are accounted for keeps the ids exact. -/
theorem unregister_exactIds (exact : ExactIds table) (accounted : Accounted table req final) :
    ExactIds final := by
  have kept : forall slot, final.InUse slot -> table.InUse slot ∧ ¬ Addresses table req slot ∧
      final.mapping slot = table.mapping slot := by
    intro slot inUse
    have unaddressed : ¬ Addresses table req slot :=
      fun addresses => unregister_unused located completed addresses inUse
    rcases unregister_frame located completed unaddressed with ⟨inUse_iff, unchanged⟩
    exact ⟨inUse_iff.mp inUse, unaddressed, unchanged⟩
  apply ExactIds.of_held
  · intro left right leftInUse rightInUse same
    rw [(kept left leftInUse).2.2, (kept right rightInUse).2.2] at same
    exact exact.exclusive (kept left leftInUse).1 (kept right rightInUse).1 same
  · intro id
    rw [accounted id]
    constructor
    · rintro (⟨bit, unaddressed⟩ | ⟨slot, _, inUse, same⟩)
      · rcases (exact.taken_iff id).mp bit with ⟨slot, inUse, same⟩
        have other : ¬ Addresses table req slot := fun addresses => unaddressed ⟨slot, addresses, same⟩
        rcases unregister_frame located completed other with ⟨inUse_iff, unchanged⟩
        exact ⟨slot, inUse_iff.mpr inUse, by rw [unchanged, same]⟩
      · exact ⟨slot, inUse, same⟩
    · rintro ⟨slot, inUse, same⟩
      rcases kept slot inUse with ⟨wasInUse, unaddressed, unchanged⟩
      rw [unchanged] at same
      refine Or.inl ⟨(exact.taken_iff id).mpr ⟨slot, wasInUse, same⟩, ?_⟩
      rintro ⟨other, addresses, otherSame⟩
      exact unaddressed (exact.exclusive addresses.inUse wasInUse (otherSame.trans same.symm) ▸ addresses)

end Removal

/-! ## Assignments -/

/-- What the mappings hold on the simulated bitmap once the tuples have been
followed. -/
def assigned (table : Table) (receiver : Uuid) (tuples : List NotifyTuple) : Slot -> Option U16 :=
  revise table receiver (fun tuple => some tuple.id) tuples (stores table)

theorem assigned_append (table : Table) (receiver : Uuid) (done rest : List NotifyTuple) (slot : Slot) :
    assigned table receiver (done ++ rest) slot =
      revise table receiver (fun tuple => some tuple.id) rest (assigned table receiver done) slot := by
  simp only [assigned, revise, List.foldl_append]

/-- A mapping to which every tuple that names it gives the id it stores. -/
theorem assigned_eq_stores {table : Table} {receiver : Uuid} {tuples : List NotifyTuple} {slot : Slot}
    (same : forall tuple, tuple ∈ tuples -> table.addressed receiver tuple = some slot ->
      (table.mapping slot).id = tuple.id) : assigned table receiver tuples slot = stores table slot := by
  refine List.foldlRecOn tuples _ (motive := fun held => held = stores table slot) rfl ?_
  intro held unchanged tuple member
  by_cases named : table.addressed receiver tuple = some slot
  · rw [if_pos named, stores, same tuple member named]
  · rw [if_neg named, unchanged]

theorem assigned_isSome (table : Table) (receiver : Uuid) (tuples : List NotifyTuple) (slot : Slot) :
    exists id, assigned table receiver tuples slot = some id := by
  rcases revise_cases table receiver (fun tuple => some tuple.id) tuples (stores table) slot with
    ⟨_, kept⟩ | ⟨tuple, _, given⟩
  · exact ⟨_, kept⟩
  · exact ⟨tuple.id, given⟩

/-- Two tuples of which one gives its mapping the stored id, if they have one
cookie. -/
theorem Regives.stored {table : Table} {receiver : Uuid} {earlier later : NotifyTuple} {slot : Slot}
    (regives : Regives table receiver earlier later)
    (named : table.addressed receiver later = some slot)
    (alsoNamed : table.addressed receiver earlier = some slot) :
    (table.mapping slot).id = earlier.id := by
  apply regives _ slot alsoNamed
  rw [← (Table.addressed_spec alsoNamed).2, (Table.addressed_spec named).2]

/-! ### The tuple to blame -/

/-- The first tuple to blame for an assignment that is not settled: it gives a
mapping another id than the stored one, and a later tuple names the mapping
again. -/
structure Blamed (table : Table) (req : NotifyReq) (done : List NotifyTuple) (tuple : NotifyTuple)
    (rest : List NotifyTuple) (slot : Slot) : Prop where
  split : req.tuples = done ++ tuple :: rest
  settled : done.Pairwise (Regives table req.receiverUuid)
  across : forall earlier, earlier ∈ done -> forall later, later ∈ tuple :: rest ->
    Regives table req.receiverUuid earlier later
  named : table.addressed req.receiverUuid tuple = some slot
  differs : (table.mapping slot).id ≠ tuple.id
  renamed : exists later, later ∈ rest ∧ table.addressed req.receiverUuid later = some slot

theorem exists_blamed {table : Table} {req : NotifyReq} (unsettled : ¬ AssignSettled table req) :
    exists done tuple rest slot, Blamed table req done tuple rest slot := by
  rcases exists_first_of_not_pairwise unsettled with
    ⟨done, tuple, rest, split, settled, across, later, follows, unrelated⟩
  simp only [Regives, not_forall] at unrelated
  rcases unrelated with ⟨sameCookie, slot, named, differs⟩
  have renamed : table.addressed req.receiverUuid later = some slot := by
    rw [← named, Table.addressed, Table.addressed, sameCookie]
  exact ⟨done, tuple, rest, slot, split, settled, across, named, differs, later, follows, renamed⟩

namespace Blamed

variable {table : Table} {req : NotifyReq} {done rest : List NotifyTuple} {tuple : NotifyTuple}
  {slot : Slot} (blamed : Blamed table req done tuple rest slot)
include blamed

/-- The mapping holds the new id once its tuple has been followed. -/
theorem holds :
    holder table (assigned table req.receiverUuid (done ++ [tuple])) slot = some tuple.id := by
  rw [holder_of_inUse (Table.addressed_spec blamed.named).1, assigned, revise_snoc _ blamed.named,
    Function.update_self]

variable {simBitmap : U64}
  (inStep : InStep (fun _ => False)
    (holder table (assigned table req.receiverUuid (done ++ [tuple]))) (taken simBitmap))
include inStep

/-- Only the mapping to blame holds the new id, so that no later tuple strikes it. -/
theorem elsewhere {other : NotifyTuple} (member : other ∈ rest) {visited : Slot}
    (visits : table.addressed req.receiverUuid other = some visited) :
    (table.mapping visited).id ≠ tuple.id := by
  intro same
  by_cases atSlot : visited = slot
  · rw [atSlot] at same
    exact blamed.differs same
  · apply atSlot
    apply inStep.exclusive visited slot tuple.id _ blamed.holds
    rw [holder_of_inUse (Table.addressed_spec visits).1, assigned, revise_snoc _ blamed.named,
      Function.update_of_ne atSlot, ← same]
    exact assigned_eq_stores (fun earlier before =>
      (blamed.across earlier before other (List.mem_cons_of_mem tuple member)).stored visits)

/-- A mapping that stores the new id before the request is addressed by it. -/
theorem addresses_of_stored {owner : Slot} (inUse : table.InUse owner)
    (same : (table.mapping owner).id = tuple.id) : Addresses table req owner := by
  by_contra unaddressed
  have untouched : assigned table req.receiverUuid (done ++ [tuple]) owner = stores table owner := by
    apply assigned_eq_stores
    intro visitor member visits
    refine absurd ⟨visitor, ?_, visits⟩ unaddressed
    rw [blamed.split]
    rcases List.mem_append.mp member with earlier | last
    · exact List.mem_append_left _ earlier
    · rw [List.mem_singleton.mp last]
      exact List.mem_append_right _ List.mem_cons_self
  have equal : owner = slot := by
    apply inStep.exclusive owner slot tuple.id _ blamed.holds
    rw [holder_of_inUse inUse, untouched, stores, same]
  have member : tuple ∈ req.tuples := List.mem_iff_append.mpr ⟨done, rest, blamed.split⟩
  exact unaddressed ⟨tuple, member, equal ▸ blamed.named⟩

/-- No mapping is left with the new id, if no later tuple gives it. -/
theorem not_assigned (notGiven : forall other, other ∈ rest -> other.id ≠ tuple.id) {other : Slot}
    (inUse : table.InUse other) :
    assigned table req.receiverUuid req.tuples other ≠ some tuple.id := by
  have together : req.tuples = (done ++ [tuple]) ++ rest := by
    rw [blamed.split, List.append_assoc]
    rfl
  intro same
  rw [together, assigned_append] at same
  rcases revise_cases table req.receiverUuid (fun tuple => some tuple.id) rest
    (assigned table req.receiverUuid (done ++ [tuple])) other with
      ⟨unnamed, kept⟩ | ⟨giver, member, given⟩
  · rw [kept] at same
    have equal : other = slot := by
      apply inStep.exclusive other slot tuple.id _ blamed.holds
      rw [holder_of_inUse inUse, same]
    rcases blamed.renamed with ⟨later, follows, renamed⟩
    exact unnamed later follows (equal ▸ renamed)
  · rw [given] at same
    exact notGiven giver member (Option.some.inj same)

end Blamed

/-! ### The two passes -/

section Assignment

variable {table : Table} {req : NotifyReq} {entry : Fin notifyMaxServices}
  (located : table.nfyFindEntry req.receiverUuid = some entry)
include located

/-- One tuple of the validation pass, for a mapping that still counts with the
id it stores: the id of the tuple takes its place. -/
theorem assignCheck_inStep {done : List NotifyTuple} {tuple : NotifyTuple} {simBitmap next : U64}
    (before : InStep (fun _ => False) (holder table (assigned table req.receiverUuid done))
      (taken simBitmap))
    (settled : forall earlier, earlier ∈ done -> Regives table req.receiverUuid earlier tuple)
    (stepped : assignCheck table entry simBitmap tuple = .ok next) :
    InStep (fun _ => False) (holder table (assigned table req.receiverUuid (done ++ [tuple])))
      (taken next) := by
  rcases assignCheck_eq_ok stepped with ⟨index, found, small, free, rfl⟩
  have named := Table.addressed_eq_some located found
  have inUse := (Table.addressed_spec named).1
  have held : holder table (assigned table req.receiverUuid done) (entry, index) =
      some (table.mapping (entry, index)).id := by
    rw [holder_of_inUse inUse]
    exact assigned_eq_stores (fun earlier member => (settled earlier member).stored named)
  have released := before.release (Or.inl held) (fun _ owed _ => owed)
    (taken_clearBit simBitmap (table.mapping (entry, index)).id)
  have unused : ¬ taken (clearBit simBitmap (table.mapping (entry, index)).id) tuple.id := by
    rw [taken, free]
    exact Bool.false_ne_true
  have acquired := released.acquire (Function.update_self ..) unused (fun _ owed => owed.elim)
    (taken_setBit _ small)
  rw [Function.update_idem] at acquired
  rw [assigned, holder_revise_snoc named]
  exact acquired

/-- The validation pass as far as its tuples are settled. -/
theorem assign_inStep (exact : ExactIds table) {done : List NotifyTuple} {simBitmap : U64}
    (settled : done.Pairwise (Regives table req.receiverUuid))
    (checked : done.foldlM (assignCheck table entry) table.globalBitmap = .ok simBitmap) :
    InStep (fun _ => False) (holder table (assigned table req.receiverUuid done)) (taken simBitmap) := by
  refine foldlM_invariant
    (fun done simBitmap => InStep (fun _ => False)
      (holder table (assigned table req.receiverUuid done)) (taken simBitmap))
    exact.inStep ?_ checked
  intro before tuple rest simBitmap next split _reached inStep stepped
  refine assignCheck_inStep located inStep (fun earlier member => ?_) stepped
  rw [split, List.pairwise_append] at settled
  exact settled.2.2 earlier member tuple List.mem_cons_self

/-- A settled assignment keeps the ids exact. -/
theorem assign_exactIds (exact : ExactIds table) {after : Table} (settled : AssignSettled table req)
    (completed : assignMappings table entry req.tuples = .ok after) : ExactIds after := by
  rcases assignMappings_eq_ok completed with ⟨simBitmap, applied, checked, stored, rfl⟩
  have storedIds := assignApply_stored exact located stored
  have sound : Sound (applied.setBitmap simBitmap) (assigned table req.receiverUuid req.tuples) :=
    (assignMappings_keeps located completed).sound (assign_inStep located exact settled checked) storedIds
  apply sound.of_agree
  intro slot inUse
  rcases assigned_isSome table req.receiverUuid req.tuples slot with ⟨id, given⟩
  rw [stores, sound.stored slot inUse, given]
  rfl

/-- What an assignment does not address is as it was. -/
theorem assign_frame {after : Table} (completed : assignMappings table entry req.tuples = .ok after)
    {slot : Slot} (unaddressed : ¬ Addresses table req slot) :
    (after.InUse slot <-> table.InUse slot) ∧ after.mapping slot = table.mapping slot := by
  have kept := assignMappings_keeps located completed
  exact ⟨kept.1.inUse_iff (kept.2 slot).1.1,
    (kept.2 slot).2 (fun tuple member named => unaddressed ⟨tuple, member, named⟩)⟩

/-- Tuples that are checked while an id is taken on the simulated bitmap, and
that name no mapping which stores it, leave it taken and do not give it. -/
theorem assignCheck_keeps_taken {id : U16} {tuples : List NotifyTuple} {start final : U64}
    (elsewhere : forall tuple, tuple ∈ tuples -> forall slot,
      table.addressed req.receiverUuid tuple = some slot -> (table.mapping slot).id ≠ id)
    (bit : taken start id) (checked : tuples.foldlM (assignCheck table entry) start = .ok final) :
    taken final id ∧ forall tuple, tuple ∈ tuples -> tuple.id ≠ id := by
  refine foldlM_invariant
    (fun done simBitmap => taken simBitmap id ∧ forall tuple, tuple ∈ done -> tuple.id ≠ id)
    ⟨bit, by simp⟩ ?_ checked
  rintro done tuple rest simBitmap next split _reached ⟨bit, others⟩ stepped
  rcases assignCheck_eq_ok stepped with ⟨index, found, small, free, rfl⟩
  have member : tuple ∈ tuples := List.mem_iff_append.mpr ⟨done, rest, split⟩
  have named := Table.addressed_eq_some located found
  have kept : taken (clearBit simBitmap (table.mapping (entry, index)).id) id :=
    (taken_clearBit simBitmap _ id).mpr ⟨bit, (elsewhere tuple member _ named).symm⟩
  refine ⟨(taken_setBit _ small id).mpr (Or.inl kept), fun other member => ?_⟩
  rcases List.mem_append.mp member with earlier | last
  · exact others other earlier
  · rw [List.mem_singleton.mp last]
    rintro rfl
    rw [taken, free] at kept
    cases kept

/-- An assignment that is not settled leaks the new id of the tuple to blame: no
mapping stores it in the end, and its bit is set. -/
theorem assign_unsettled (exact : ExactIds table) {after : Table} (unsettled : ¬ AssignSettled table req)
    (completed : assignMappings table entry req.tuples = .ok after) : ¬ Accounted table req after := by
  intro accounted
  rcases exists_blamed unsettled with ⟨done, tuple, rest, slot, blamed⟩
  rcases assignMappings_eq_ok completed with ⟨simBitmap, applied, checked, stored, rfl⟩
  rw [blamed.split] at checked
  rcases foldlM_split checked with ⟨simBefore, simNext, before, stepped, checkedRest⟩
  have inStep := assignCheck_inStep located (assign_inStep located exact blamed.settled before)
    (fun earlier member => blamed.across earlier member tuple List.mem_cons_self) stepped
  have bit := (inStep.complete slot tuple.id blamed.holds).resolve_right not_false
  rcases assignCheck_keeps_taken located (fun _ member _ => blamed.elsewhere inStep member) bit checkedRest
    with ⟨leaked, notGiven⟩
  rcases (accounted tuple.id).mp leaked with ⟨wasTaken, unaddressed⟩ | ⟨other, addresses, _, same⟩
  · rcases (exact.taken_iff tuple.id).mp wasTaken with ⟨owner, inUse, same⟩
    exact unaddressed ⟨owner, blamed.addresses_of_stored inStep inUse same, same⟩
  · have storedId := assignApply_stored exact located stored other addresses.inUse
    rcases assigned_isSome table req.receiverUuid req.tuples other with ⟨id, held⟩
    change (applied.mapping other).id = _ at same
    change _ = (assigned table req.receiverUuid req.tuples other).getD 0 at storedId
    rw [storedId, held, Option.getD_some] at same
    rw [same] at held
    exact blamed.not_assigned inStep notGiven addresses.inUse held

/-- The bits of an assignment are accounted for exactly when it is settled. -/
theorem assign_accounted_iff (exact : ExactIds table) {after : Table}
    (completed : assignMappings table entry req.tuples = .ok after) :
    Accounted table req after <-> AssignSettled table req := by
  constructor
  · intro accounted
    by_contra unsettled
    exact assign_unsettled located exact unsettled completed accounted
  · intro settled
    exact exact.accounted (assign_exactIds located exact settled completed)
      (fun _ unaddressed => assign_frame located completed unaddressed)

end Assignment

/-! ## Runs -/

/-- The requests that look mappings up by their cookies, other than those that
take their ids away. -/
def ByCookie (id : MessageID) : Prop := id = .assign ∨ id = .remove ∨ id = .destroy

/-- If the request is an assignment or a removal that succeeds, its bits are
accounted for. -/
def Accounts (table : Table) (message : MsgSendDirectReq2) : Prop :=
  forall id after, messageId (NotifyReq.ofMessage message).msgInfo = some id -> ByCookie id ->
    answer table message = some (ErrorCode.ok.toU64, after) ->
    Accounted table (NotifyReq.ofMessage message) after

/-- The condition on a request of each kind. -/
def Settled (table : Table) (message : MsgSendDirectReq2) : Prop :=
  match messageId (NotifyReq.ofMessage message).msgInfo with
  | some .assign => AssignSettled table (NotifyReq.ofMessage message)
  | some .remove | some .destroy => RemovalSettled table (NotifyReq.ofMessage message)
  | _ => True

/-- If the request succeeds, it meets the condition. -/
def SettledIfGranted (table : Table) (message : MsgSendDirectReq2) : Prop :=
  forall after, answer table message = some (ErrorCode.ok.toU64, after) -> Settled table message

/-- The request does not take ids away from mappings that stay in use. -/
def KeepsIds (message : MsgSendDirectReq2) : Prop :=
  messageId (NotifyReq.ofMessage message).msgInfo ≠ some .unassign

instance (message : MsgSendDirectReq2) : Decidable (KeepsIds message) :=
  inferInstanceAs (Decidable (_ ≠ _))

theorem new_exactIds : ExactIds Table.new := by
  apply ExactIds.of_held
  · intro left right inUse
    cases inUse.1
  · intro id
    constructor
    · intro bit
      simp [taken, Table.new] at bit
    · rintro ⟨slot, inUse, _⟩
      cases inUse.1

/-- Claiming an entry does not touch a mapping in use. -/
theorem ExactIds.claimed {table claimed : Table} (exact : ExactIds table) {req : NotifyReq}
    {entry : Fin notifyMaxServices}
    (located : table.findOrCreateEntry req.receiverUuid = some (entry, claimed)) : ExactIds claimed := by
  have keeps := Table.findOrCreateEntry_keeps located
  refine ExactIds.of_sound (Sound.claimed exact located) (fun slot inUse => ?_)
  exact keeps.2.2 slot ((keeps.2.1 slot).mp inUse)

/-- A registration stores free ids. -/
theorem ExactIds.register {table final : Table} (exact : ExactIds table) {req : NotifyReq}
    {entry : Fin notifyMaxServices} (inUse : (table.entries entry).inUse = true)
    (completed : req.tuples.foldlM (registerTuple table entry req.srcId) table = .ok final) :
    ExactIds final := by
  apply (register_sound exact inUse completed).of_agree
  intro slot usedAfter
  by_cases usedBefore : table.InUse slot
  · rw [registering, if_neg (fun both => both.1 usedBefore), stores, stores,
      register_keeps completed usedBefore.2]
  · rw [registering, if_pos ⟨usedBefore, usedAfter⟩, stores]

/-- A granted request is accounted for exactly when it meets the condition. -/
theorem accounts_iff_settled {table : Table} (exact : ExactIds table) (message : MsgSendDirectReq2) :
    Accounts table message <-> SettledIfGranted table message := by
  have granted_iff : forall {id after}, messageId (NotifyReq.ofMessage message).msgInfo = some id ->
      ByCookie id -> answer table message = some (ErrorCode.ok.toU64, after) ->
      (Accounted table (NotifyReq.ofMessage message) after <-> Settled table message) := by
    intro id after selected kind granted
    unfold Settled
    cases process_outcome (process_of_answer selected granted) with
    | registered registers => rcases registers with rfl | rfl <;> simp [ByCookie] at kind
    | unregistered removes located completed =>
        rcases removes with rfl | rfl
        · rw [selected]
          exact unregister_accounted_iff located completed
        · rw [selected]
          exact unregister_accounted_iff located completed
    | assigned located completed =>
        rw [selected]
        exact assign_accounted_iff located exact completed
    | unassigned => simp [ByCookie] at kind
    | unchanged failed => exact absurd rfl failed
    | leaked _ _ _ _ _ failed => exact absurd rfl failed
  constructor
  · intro accounts after granted
    cases selected : messageId (NotifyReq.ofMessage message).msgInfo with
    | none =>
        unfold Settled
        rw [selected]
        trivial
    | some id =>
        by_cases kind : ByCookie id
        · exact (granted_iff selected kind granted).mp (accounts id after selected kind granted)
        · unfold Settled
          rw [selected]
          cases id <;> first | trivial | exact absurd (by simp [ByCookie]) kind
  · intro settled id after selected kind granted
    exact (granted_iff selected kind granted).mpr (settled after granted)

/-- The ids stay exact as long as granted requests meet the condition. -/
theorem step_exactIds {table next : Table} {message : MsgSendDirectReq2} (exact : ExactIds table)
    (keepsIds : KeepsIds message) (settled : SettledIfGranted table message)
    (stepped : step table message = some next) : ExactIds next := by
  rcases step_cases stepped with ⟨_, rfl⟩ | ⟨id, status, selected, processed⟩
  · exact exact
  · have granted : status = .ok -> answer table message = some (ErrorCode.ok.toU64, next) := by
      rintro rfl
      rw [answer_eq table selected, processed, Option.map_some]
    cases process_outcome processed with
    | registered _ _ located completed =>
        exact (exact.claimed located).register (Table.findOrCreateEntry_spec located).2 completed
    | unregistered kind located completed =>
        have holds := settled next (granted rfl)
        unfold Settled at holds
        rw [selected] at holds
        rcases kind with rfl | rfl
        · exact unregister_exactIds located completed exact
            ((unregister_accounted_iff located completed).mpr holds)
        · exact unregister_exactIds located completed exact
            ((unregister_accounted_iff located completed).mpr holds)
    | assigned located completed =>
        have holds := settled next (granted rfl)
        unfold Settled at holds
        rw [selected] at holds
        exact assign_exactIds located exact holds completed
    | unassigned => exact absurd selected keepsIds
    | unchanged => exact exact
    | leaked _ _ unknown empty _ _ =>
        exact exact.claimed (Table.findOrCreateEntry_of_unknown unknown empty)

/-- In a run without unassignments, the bits of all assignments and removals
that succeed are accounted for exactly when all of these requests meet the
condition. -/
theorem accounted_iff_settled (messages : List MsgSendDirectReq2)
    (keepIds : forall message, message ∈ messages -> KeepsIds message) :
    Along step Accounts Table.new messages <-> Along step SettledIfGranted Table.new messages := by
  constructor
  · intro accounts
    refine Along.of_invariant ExactIds ?_ ?_ new_exactIds (accounts.and_mem keepIds)
    · intro table message next exact allowed stepped
      exact step_exactIds exact allowed.2 ((accounts_iff_settled exact message).mp allowed.1) stepped
    · intro table message exact allowed
      exact (accounts_iff_settled exact message).mp allowed.1
  · intro settled
    refine Along.of_invariant ExactIds ?_ ?_ new_exactIds (settled.and_mem keepIds)
    · intro table message next exact allowed stepped
      exact step_exactIds exact allowed.2 allowed.1 stepped
    · intro table message exact allowed
      exact (accounts_iff_settled exact message).mpr allowed.1

/-- Two mappings whose ids are exchanged for others, each named once. -/
def settledRun : List MsgSendDirectReq2 :=
  [compose 1 7 .setup [⟨21, 3, .global⟩, ⟨22, 4, .global⟩] (by decide),
    compose 1 7 .assign [⟨21, 5, .global⟩, ⟨22, 3, .global⟩] (by decide),
    compose 1 7 .remove [⟨22, 3, .global⟩] (by decide)]

theorem settledRun_accounted :
    (forall message, message ∈ settledRun -> KeepsIds message) ∧
      (Along step Accounts Table.new settledRun <->
        Along step SettledIfGranted Table.new settledRun) := by
  have keepIds : forall message, message ∈ settledRun -> KeepsIds message := by
    decide +kernel
  exact ⟨keepIds, accounted_iff_settled settledRun keepIds⟩

/-- One mapping, and an assignment that gives it two ids. -/
def singleSetup : MsgSendDirectReq2 := compose 1 7 .setup [⟨21, 3, .global⟩] (by decide)

def twiceAssigned : MsgSendDirectReq2 :=
  compose 1 7 .assign [⟨21, 4, .global⟩, ⟨21, 5, .global⟩] (by decide)

/-- The first of the two ids keeps its bit, although no mapping stores it. -/
theorem not_always_accounted :
    ¬ forall messages, (forall message, message ∈ messages -> KeepsIds message) ->
      Along step Accounts Table.new messages := by
  intro always
  have reached := run_eq_finalState
    (show (run step Table.new [singleSetup]).isSome = true by decide +kernel)
  have accounts := along_iff_forall_step.mp
    (always [singleSetup, twiceAssigned] (by decide +kernel)) [singleSetup] twiceAssigned [] _ rfl reached
  have answered : (answer (finalState step Table.new [singleSetup]) twiceAssigned).map
      (fun result => (result.1, result.2.globalBitmap, (result.2.mapping (0, 0)).id)) =
        some (ErrorCode.ok.toU64, 0x30, 5) := by
    decide +kernel
  rcases Option.map_eq_some_iff.mp answered with ⟨⟨status, after⟩, granted, same⟩
  simp only [Prod.mk.injEq] at same
  rcases same with ⟨rfl, bitmap, stored⟩
  have bit : taken after.globalBitmap 4 := by
    rw [bitmap]
    decide
  rcases (accounts .assign after (by decide +kernel) (Or.inl rfl) granted 4).mp bit with
    ⟨wasTaken, _⟩ | ⟨slot, ⟨tuple, member, named⟩, _, storesFour⟩
  · exact absurd wasTaken (by decide +kernel)
  · have first : forall tuple, tuple ∈ (NotifyReq.ofMessage twiceAssigned).tuples ->
        (finalState step Table.new [singleSetup]).addressed
          (NotifyReq.ofMessage twiceAssigned).receiverUuid tuple = some (0, 0) := by
      decide +kernel
    rw [first tuple member] at named
    cases named
    rw [stored] at storesFour
    exact absurd storesFour (by decide)

end Notify
end SecureServices
