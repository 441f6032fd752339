import SecureServices.Notify.Loops
import SecureServices.Library.Run
import SecureServices.Library.Allocation
import Mathlib.Data.Fintype.Prod

namespace SecureServices
namespace Notify

open Library Ffa

/-!
# Which mapping holds which notification id

The table stores an id in every mapping that is in use, also in one that was
unassigned and has none: such a mapping is reserved, and stores the id 0.
What a mapping holds is therefore not a function of the table.  It is tracked
beside the table, from the requests that were answered with success.

As long as no request touches a reserved mapping while another mapping holds
the id 0, the mappings in use and the global bitmap are in step.  The three
operations that look up mappings by their cookies share one step lemma: a
visit strikes the stored id from the bitmap and gives the mapping a new id or
none.
-/

/-- The table, and for every mapping the id that it was last given. -/
structure Tracked where
  table : Table
  holds : Slot -> Option U16

/-- What each mapping has been given once the tuples are followed in order. -/
def revise (table : Table) (receiver : Uuid) (gives : NotifyTuple -> Option U16)
    (tuples : List NotifyTuple) (holds : Slot -> Option U16) : Slot -> Option U16 :=
  fun slot => tuples.foldl (fun held tuple =>
    if table.addressed receiver tuple = some slot then gives tuple else held) (holds slot)

namespace Tracked

/-- The service as `Notify::new` makes it. -/
def start : Tracked := ⟨Table.new, fun _ => none⟩

/-- A mapping in use holds the id that it was last given. -/
def Holds (state : Tracked) (slot : Slot) (id : U16) : Prop :=
  state.table.InUse slot ∧ state.holds slot = some id

instance (state : Tracked) (slot : Slot) (id : U16) : Decidable (state.Holds slot id) :=
  inferInstanceAs (Decidable (_ ∧ _))

/-- No id is held by two mappings. -/
def Exclusive (state : Tracked) : Prop :=
  forall left right id, state.Holds left id -> state.Holds right id -> left = right

/-- The set bits of the global bitmap are exactly the held ids. -/
def Exact (state : Tracked) : Prop :=
  forall id : U16, state.table.globalBitmap.getLsbD id.toNat = true <-> exists slot, state.Holds slot id

/-- What a successful request of each kind gives to the mappings.  A
registration gives the mappings that it takes into use the ids they are
registered with. -/
def recordHolding (state : Tracked) (after : Table) (req : NotifyReq) :
    MessageID -> Slot -> Option U16
  | .setup | .add => fun slot =>
      if ¬ state.table.InUse slot ∧ after.InUse slot then some (after.mapping slot).id
      else state.holds slot
  | .assign =>
      revise state.table req.receiverUuid (fun tuple => some tuple.id) req.tuples state.holds
  | .unassign | .remove | .destroy =>
      revise state.table req.receiverUuid (fun _ => none) req.tuples state.holds

end Tracked

/-- One message, with what the mappings hold recorded from its answer. -/
def trackedStep (state : Tracked) (message : MsgSendDirectReq2) : Option Tracked :=
  (ffaMsgSendDirectReq2 state.table message).map (fun (result, after) =>
    let req := NotifyReq.ofMessage message
    match messageId req.msgInfo with
    | some id => ⟨after, if granted result then state.recordHolding after req id else state.holds⟩
    | none => ⟨after, state.holds⟩)

/-- Tracking what is held does not change what the service does. -/
theorem trackedStep_table (state : Tracked) (message : MsgSendDirectReq2) :
    (trackedStep state message).map Tracked.table = step state.table message := by
  rw [trackedStep, step, Option.map_map]
  congr 1
  funext ⟨result, after⟩
  cases selected : messageId (NotifyReq.ofMessage message).msgInfo <;>
    simp only [Function.comp, selected]

/-- A tracked step is a successful request, which is recorded, or one that
leaves what is held alone. -/
theorem trackedStep_cases {state next : Tracked} {message : MsgSendDirectReq2}
    (stepped : trackedStep state message = some next) :
    (exists id, messageId (NotifyReq.ofMessage message).msgInfo = some id ∧
      process state.table (NotifyReq.ofMessage message) id = some (.ok, next.table) ∧
      next.holds = state.recordHolding next.table (NotifyReq.ofMessage message) id) ∨
    (next.holds = state.holds ∧ (next.table = state.table ∨
      exists id status, status ≠ ErrorCode.ok ∧
        process state.table (NotifyReq.ofMessage message) id = some (status, next.table))) := by
  rcases Option.map_eq_some_iff.mp stepped with ⟨⟨result, after⟩, handled, same⟩
  rcases ffaMsgSendDirectReq2_cases handled with ⟨noId, rfl, _⟩ | ⟨id, status, selected, processed, rfl⟩
  · simp only [noId] at same
    cases same
    exact Or.inr ⟨rfl, Or.inl rfl⟩
  · simp only [selected, granted_respond, decide_eq_true_eq] at same
    by_cases success : status = .ok
    · rw [if_pos success] at same
      cases same
      exact Or.inl ⟨id, selected, success ▸ processed, rfl⟩
    · rw [if_neg success] at same
      cases same
      exact Or.inr ⟨rfl, Or.inr ⟨id, status, success, processed⟩⟩

/-! ## The condition -/

/-- Some tuple of the request names a reserved mapping. -/
def Disturbs (table : Table) (holds : Slot -> Option U16) (req : NotifyReq) : Prop :=
  exists tuple, tuple ∈ req.tuples ∧
    exists slot, table.addressed req.receiverUuid tuple = some slot ∧ holds slot = none

/-- A request that names a reserved mapping must also visit every mapping
that holds the id 0, and must not give out the id 0 before it visits a mapping
that stores it. -/
def ZeroSafe (table : Table) (holds : Slot -> Option U16) (req : NotifyReq)
    (gives : NotifyTuple -> Option U16) : Prop :=
  Disturbs table holds req ->
    (forall slot, table.InUse slot ∧ holds slot = some 0 ->
      exists tuple, tuple ∈ req.tuples ∧ table.addressed req.receiverUuid tuple = some slot) ∧
    req.tuples.Pairwise (fun earlier later => gives earlier = some 0 ->
      forall slot, table.addressed req.receiverUuid later = some slot -> (table.mapping slot).id ≠ 0)

/-- The requests that look up mappings by cookie are safe for the id 0.
Registrations, and requests that name no reserved mapping, are unrestricted. -/
def ReservedSafe (state : Tracked) (message : MsgSendDirectReq2) : Prop :=
  match messageId (NotifyReq.ofMessage message).msgInfo with
  | some .assign =>
      ZeroSafe state.table state.holds (NotifyReq.ofMessage message) (fun tuple => some tuple.id)
  | some .unassign | some .remove | some .destroy =>
      ZeroSafe state.table state.holds (NotifyReq.ofMessage message) (fun _ => none)
  | some .setup | some .add | none => True

instance (table : Table) (holds : Slot -> Option U16) (req : NotifyReq) :
    Decidable (Disturbs table holds req) :=
  inferInstanceAs (Decidable (exists tuple, tuple ∈ req.tuples ∧ _))

instance (table : Table) (holds : Slot -> Option U16) (req : NotifyReq)
    (gives : NotifyTuple -> Option U16) : Decidable (ZeroSafe table holds req gives) :=
  inferInstanceAs (Decidable (_ -> _ ∧ _))

instance (state : Tracked) (message : MsgSendDirectReq2) : Decidable (ReservedSafe state message) :=
  match selected : messageId (NotifyReq.ofMessage message).msgInfo with
  | some .assign => decidable_of_iff
      (ZeroSafe state.table state.holds (NotifyReq.ofMessage message) (fun tuple => some tuple.id))
      (by simp [ReservedSafe, selected])
  | some .unassign | some .remove | some .destroy => decidable_of_iff
      (ZeroSafe state.table state.holds (NotifyReq.ofMessage message) (fun _ => none))
      (by simp [ReservedSafe, selected])
  | some .setup | some .add | none => isTrue (by simp [ReservedSafe, selected])

/-! ## The invariant -/

/-- What is held, restricted to the mappings in use. -/
def holder (table : Table) (holds : Slot -> Option U16) : Slot -> Option U16 :=
  fun slot => if table.InUse slot then holds slot else none

/-- Mappings and bitmap are in step, and a mapping in use stores what it
holds, or 0 if it is reserved. -/
structure Sound (table : Table) (holds : Slot -> Option U16) : Prop where
  inStep : InStep (fun _ => False) (holder table holds) (taken table.globalBitmap)
  stored : forall slot, table.InUse slot -> (table.mapping slot).id = (holds slot).getD 0

theorem holder_of_inUse {table : Table} {slot : Slot} (inUse : table.InUse slot)
    (holds : Slot -> Option U16) : holder table holds slot = holds slot := if_pos inUse

theorem holder_eq_some {state : Tracked} {slot : Slot} {id : U16} :
    holder state.table state.holds slot = some id <-> state.Holds slot id := by
  by_cases inUse : state.table.InUse slot <;> simp [holder, Tracked.Holds, inUse]

/-- The invariant contains the two properties it is for. -/
theorem Sound.exclusive_exact {state : Tracked} (sound : Sound state.table state.holds) :
    state.Exclusive ∧ state.Exact := by
  constructor
  · intro left right id leftHolds rightHolds
    exact sound.inStep.exclusive left right id (holder_eq_some.mpr leftHolds)
      (holder_eq_some.mpr rightHolds)
  · intro id
    have exact := sound.inStep.taken_iff (fun _ => not_false) id
    simp only [holder_eq_some] at exact
    exact exact

theorem start_sound : Sound Tracked.start.table Tracked.start.holds where
  inStep := by
    have noHolder : holder Tracked.start.table Tracked.start.holds = fun _ => none := by
      funext slot
      exact ite_self none
    rw [noHolder]
    exact InStep.empty (fun id bit => by simp [taken, Tracked.start, Table.new] at bit)
  stored := fun slot inUse => absurd inUse.1 (by simp [Tracked.start, Table.new, NfyEntry.default])

/-! ## Visiting the mappings that the tuples name -/

section Visits

variable {table : Table} {req : NotifyReq} {holds : Slot -> Option U16}
  {gives : NotifyTuple -> Option U16} {done rest : List NotifyTuple} {tuple : NotifyTuple} {slot : Slot}

/-- A mapping that no tuple names is given nothing. -/
theorem revise_of_unnamed (receiver : Uuid)
    (unnamed : forall tuple, tuple ∈ done -> table.addressed receiver tuple ≠ some slot) :
    revise table receiver gives done holds slot = holds slot := by
  refine List.foldlRecOn done _ (motive := fun held => held = holds slot) rfl ?_
  intro held same tuple member
  rw [if_neg (unnamed tuple member)]
  exact same

/-- Following one more tuple changes what one mapping is given. -/
theorem revise_snoc (receiver : Uuid) (named : table.addressed receiver tuple = some slot) :
    revise table receiver gives (done ++ [tuple]) holds =
      Function.update (revise table receiver gives done holds) slot (gives tuple) := by
  funext other
  simp only [revise, List.foldl_append, List.foldl_cons, List.foldl_nil, named, Option.some.injEq]
  by_cases same : slot = other
  · rw [if_pos same, same, Function.update_self]
  · rw [if_neg same, Function.update_of_ne (Ne.symm same), revise]

/-- A mapping that no tuple names keeps what it held; any other is given what
one of the tuples gives. -/
theorem revise_cases (table : Table) (receiver : Uuid) (gives : NotifyTuple -> Option U16)
    (done : List NotifyTuple) (holds : Slot -> Option U16) (slot : Slot) :
    ((forall tuple, tuple ∈ done -> table.addressed receiver tuple ≠ some slot) ∧
      revise table receiver gives done holds slot = holds slot) ∨
    exists tuple, tuple ∈ done ∧ revise table receiver gives done holds slot = gives tuple := by
  induction done using List.reverseRecOn with
  | nil => exact Or.inl ⟨by simp, rfl⟩
  | append_singleton earlier last inductionHypothesis =>
      by_cases named : table.addressed receiver last = some slot
      · refine Or.inr ⟨last, by simp, ?_⟩
        rw [revise_snoc receiver named, Function.update_self]
      · have same : revise table receiver gives (earlier ++ [last]) holds slot =
            revise table receiver gives earlier holds slot := by
          simp only [revise, List.foldl_append, List.foldl_cons, List.foldl_nil, if_neg named]
        rw [same]
        rcases inductionHypothesis with ⟨unnamed, kept⟩ | ⟨tuple, member, given⟩
        · refine Or.inl ⟨fun tuple member => ?_, kept⟩
          rcases List.mem_append.mp member with before | atEnd
          · exact unnamed tuple before
          · rw [List.mem_singleton.mp atEnd]
            exact named
        · exact Or.inr ⟨tuple, List.mem_append_left _ member, given⟩

/-- The holders of the id 0 that are still to be visited, once a reserved
mapping may have cleared their bit. -/
def Owed (table : Table) (holds : Slot -> Option U16) (req : NotifyReq) (rest : List NotifyTuple)
    (slot : Slot) : Prop :=
  Disturbs table holds req ∧ holds slot = some 0 ∧
    exists tuple, tuple ∈ rest ∧ table.addressed req.receiverUuid tuple = some slot

/-- The slots that hold an id after some of the visits, as a holder function
of the table before them. -/
theorem holder_revise_snoc (named : table.addressed req.receiverUuid tuple = some slot) :
    holder table (revise table req.receiverUuid gives (done ++ [tuple]) holds) =
      Function.update (holder table (revise table req.receiverUuid gives done holds)) slot
        (gives tuple) := by
  rw [revise_snoc _ named]
  funext other
  by_cases same : other = slot
  · rw [same, holder_of_inUse (Table.addressed_spec named).1, Function.update_self,
      Function.update_self]
  · simp only [holder, Function.update_of_ne same]

variable (stored : forall slot, table.InUse slot -> (table.mapping slot).id = (holds slot).getD 0)
  (distinct : req.DistinctCookies) (safe : ZeroSafe table holds req gives)
  (split : req.tuples = done ++ tuple :: rest)
  (named : table.addressed req.receiverUuid tuple = some slot)
include stored distinct safe split named

/-- The first half of a visit strikes the stored id from the bitmap. -/
theorem visit_release {bitmap : U64}
    (before : InStep (Owed table holds req (tuple :: rest))
      (holder table (revise table req.receiverUuid gives done holds)) (taken bitmap)) :
    InStep (Owed table holds req rest)
      (Function.update (holder table (revise table req.receiverUuid gives done holds)) slot none)
      (taken (clearBit bitmap (table.mapping slot).id)) := by
  have inUse := (Table.addressed_spec named).1
  have unvisited : revise table req.receiverUuid gives done holds slot = holds slot :=
    revise_of_unnamed req.receiverUuid (unnamed_by_earlier distinct split List.mem_cons_self named)
  refine before.release ?_ ?_ (taken_clearBit bitmap (table.mapping slot).id)
  · rw [holder_of_inUse inUse, unvisited, stored slot inUse]
    cases held : holds slot with
    | some id => exact Or.inl rfl
    | none =>
        have member := List.mem_iff_append.mpr ⟨done, rest, split⟩
        have disturbs : Disturbs table holds req := ⟨tuple, member, slot, named, held⟩
        have storesZero : (table.mapping slot).id = 0 := by rw [stored slot inUse, held]; rfl
        refine Or.inr ⟨rfl, fun other otherHolds => ?_⟩
        -- A holder of 0 was not given it by an earlier tuple, so the request visits it later.
        have otherInUse : table.InUse other := by
          by_contra idle
          simp [holder, idle] at otherHolds
        rw [holder_of_inUse otherInUse] at otherHolds
        change _ = some 0 at otherHolds
        rcases revise_cases table req.receiverUuid gives done holds other with
          ⟨unnamed, kept⟩ | ⟨earlier, member, given⟩
        · have heldBefore : holds other = some 0 := kept.symm.trans otherHolds
          rcases (safe disturbs).1 other ⟨otherInUse, heldBefore⟩ with ⟨visitor, member, visits⟩
          refine ⟨disturbs, heldBefore, visitor, ?_, visits⟩
          rw [split, List.mem_append, List.mem_cons] at member
          rcases member with before | rfl | later
          · exact absurd visits (unnamed visitor before)
          · rw [named] at visits
            rw [← Option.some.inj visits, held] at heldBefore
            cases heldBefore
          · exact later
        · have ordered := (safe disturbs).2
          rw [split, List.pairwise_append] at ordered
          exact absurd storesZero
            (ordered.2.2 earlier member tuple List.mem_cons_self (given.symm.trans otherHolds) slot named)
  · rintro other ⟨disturbs, heldBefore, visitor, member, visits⟩ different
    rcases List.mem_cons.mp member with rfl | later
    · rw [named] at visits
      exact absurd (Option.some.inj visits).symm different
    · exact ⟨disturbs, heldBefore, visitor, later, visits⟩

/-- A whole visit.  The new id must be free once the stored one is struck. -/
theorem visit {bitmap next : U64}
    (before : InStep (Owed table holds req (tuple :: rest))
      (holder table (revise table req.receiverUuid gives done holds)) (taken bitmap))
    (free : forall id, gives tuple = some id -> ¬ taken (clearBit bitmap (table.mapping slot).id) id)
    (after : forall other, taken next other <->
      taken (clearBit bitmap (table.mapping slot).id) other ∨ gives tuple = some other) :
    InStep (Owed table holds req rest)
      (holder table (revise table req.receiverUuid gives (done ++ [tuple]) holds)) (taken next) := by
  have released := visit_release stored distinct safe split named before
  rw [holder_revise_snoc named]
  cases given : gives tuple with
  | none =>
      have same : taken next = taken (clearBit bitmap (table.mapping slot).id) := by
        funext other
        rw [given] at after
        simpa using after other
      rw [same]
      exact released
  | some id =>
      have twice : Function.update (Function.update (holder table
          (revise table req.receiverUuid gives done holds)) slot none) slot (some id) =
          Function.update (holder table (revise table req.receiverUuid gives done holds)) slot
            (some id) := Function.update_idem ..
      rw [← twice]
      refine released.acquire (Function.update_self ..) (free id given) ?_ ?_
      · rintro other ⟨disturbs, heldBefore, visitor, member, visits⟩ otherHolds
        have unvisited : revise table req.receiverUuid gives done holds other = holds other :=
          revise_of_unnamed req.receiverUuid
            (unnamed_by_earlier distinct split (List.mem_cons_of_mem tuple member) visits)
        have otherInUse := (Table.addressed_spec visits).1
        have different : other ≠ slot := fun same => by simp [same] at otherHolds
        rw [Function.update_of_ne different, holder_of_inUse otherInUse, unvisited,
          heldBefore] at otherHolds
        have ordered := (safe disturbs).2
        rw [split, List.pairwise_append, List.pairwise_cons] at ordered
        refine ordered.2.1.1 visitor member (given.trans otherHolds.symm) other visits ?_
        rw [stored other otherInUse, heldBefore]
        rfl
      · intro other
        rw [after other, given, Option.some.injEq, eq_comm]

end Visits

/-! ## The operations by cookie -/

section Operations

variable {table : Table} {holds : Slot -> Option U16} {req : NotifyReq}
  {entry : Fin notifyMaxServices}

/-- A loop each of whose iterations is a visit keeps mappings and bitmap in
step.  The accumulator may be a table or a bare bitmap. -/
theorem visits_inStep {Acc : Type} (bitmap : Acc -> U64) (gives : NotifyTuple -> Option U16)
    (sound : Sound table holds) (distinct : req.DistinctCookies) (safe : ZeroSafe table holds req gives)
    {body : Acc -> NotifyTuple -> Except Stop Acc} {begun ended : Acc}
    (begins : bitmap begun = table.globalBitmap)
    (iterate : forall done tuple rest acc next, req.tuples = done ++ tuple :: rest ->
      done.foldlM body begun = .ok acc -> body acc tuple = .ok next ->
      exists slot, table.addressed req.receiverUuid tuple = some slot ∧
        (forall id, gives tuple = some id -> ¬ taken (clearBit (bitmap acc) (table.mapping slot).id) id) ∧
        forall other, taken (bitmap next) other <->
          taken (clearBit (bitmap acc) (table.mapping slot).id) other ∨ gives tuple = some other)
    (completed : req.tuples.foldlM body begun = .ok ended) :
    InStep (fun _ => False) (holder table (revise table req.receiverUuid gives req.tuples holds))
      (taken (bitmap ended)) := by
  -- The slots owed a visit depend on the tuples to come, so the invariant quantifies over them.
  have visited := foldlM_invariant
    (fun done acc => forall rest, req.tuples = done ++ rest ->
      InStep (Owed table holds req rest)
        (holder table (revise table req.receiverUuid gives done holds)) (taken (bitmap acc)))
    (fun rest _split => begins ▸ sound.inStep.weaken (fun _ => False.elim)) ?_ completed
  · exact (visited [] (List.append_nil _).symm).weaken (fun _ ⟨_, _, _, member, _⟩ => nomatch member)
  · intro done tuple rest acc next split reached holdsBefore stepped later splitLater
    rcases iterate done tuple rest acc next split reached stepped with ⟨slot, named, free, after⟩
    have sameRest : rest = later := by
      rw [split, List.append_assoc] at splitLater
      exact List.cons_injective (List.append_cancel_left splitLater)
    subst sameRest
    exact visit sound.stored distinct safe split named (holdsBefore (tuple :: rest) split) free after

/-- A removal visits the mappings that it blanks. -/
theorem unregister_sound (sound : Sound table holds) (distinct : req.DistinctCookies)
    (safe : ZeroSafe table holds req (fun _ => none)) {after : Table}
    (located : table.nfyFindEntry req.receiverUuid = some entry)
    (completed : req.tuples.foldlM (unregisterTuple table entry req.srcId) table = .ok after) :
    Sound after (revise table req.receiverUuid (fun _ => none) req.tuples holds) := by
  rcases unregister_mapping located completed with ⟨sameEntries, mappings⟩
  have unnamed : forall slot, after.InUse slot ->
      forall tuple, tuple ∈ req.tuples -> table.addressed req.receiverUuid tuple ≠ some slot := by
    intro slot inUse tuple member named
    have blank := (mappings slot).1 ⟨tuple, member, named⟩
    rw [Table.InUse, blank] at inUse
    cases inUse.2
  have inUseBefore : forall slot, after.InUse slot -> table.InUse slot := by
    intro slot inUse
    have same := congrArg NfyMapping.inUse ((mappings slot).2 (unnamed slot inUse))
    exact (sameEntries.inUse_iff same).mp inUse
  constructor
  · have sameHolder : holder after (revise table req.receiverUuid (fun _ => none) req.tuples holds) =
        holder table (revise table req.receiverUuid (fun _ => none) req.tuples holds) := by
      funext slot
      by_cases inUse : after.InUse slot
      · rw [holder_of_inUse inUse, holder_of_inUse (inUseBefore slot inUse)]
      · rw [holder, if_neg inUse]
        rcases revise_cases table req.receiverUuid (fun _ => none) req.tuples holds slot with
          ⟨notNamed, _⟩ | ⟨_, _, given⟩
        · have same := congrArg NfyMapping.inUse ((mappings slot).2 notNamed)
          rw [holder, if_neg (fun before => inUse ((sameEntries.inUse_iff same).mpr before))]
        · rw [holder, given, ite_self]
    rw [sameHolder]
    refine visits_inStep Table.globalBitmap (fun _ => none) sound distinct safe rfl ?_ completed
    intro done tuple rest temp next split reached stepped
    rcases unregisterTuple_eq_ok stepped with ⟨index, found, sameId, _, _, small, rfl⟩
    have named := Table.addressed_eq_some located found
    have untouched := ((unregister_mapping located reached).2 (entry, index)).2
      (unnamed_by_earlier distinct split List.mem_cons_self named)
    refine ⟨(entry, index), named, by simp, fun other => ?_⟩
    rw [Table.globalBitmap_setBitmap, ← untouched, sameId, clearBit_of_lt _ small]
    simp
  · intro slot inUse
    rw [(mappings slot).2 (unnamed slot inUse), revise_of_unnamed _ (unnamed slot inUse)]
    exact sound.stored slot (inUseBefore slot inUse)

/-- Once mappings and bitmap are known to be in step after an assignment
operation, the invariant follows from what the operation keeps. -/
theorem Keeps.sound {after : Table} {given : Slot -> Option U16}
    (kept : Keeps table req.receiverUuid req.tuples after)
    (visited : InStep (fun _ => False) (holder table given) (taken after.globalBitmap))
    (stored : forall slot, table.InUse slot -> (after.mapping slot).id = (given slot).getD 0) :
    Sound after given := by
  have inUse_iff : forall slot, after.InUse slot <-> table.InUse slot :=
    fun slot => kept.1.inUse_iff (kept.2 slot).1.1
  refine ⟨?_, fun slot inUse => stored slot ((inUse_iff slot).mp inUse)⟩
  have sameHolder : holder after given = holder table given := by
    funext slot
    simp only [holder, inUse_iff slot]
  rw [sameHolder]
  exact visited

/-- The second pass of an assignment stores what the tuples give. -/
theorem assignApply_stored (sound : Sound table holds) {applied : Table}
    (located : table.nfyFindEntry req.receiverUuid = some entry)
    (completed : req.tuples.foldlM (assignApply entry) table = .ok applied) (slot : Slot)
    (inUse : table.InUse slot) :
    (applied.mapping slot).id =
      (revise table req.receiverUuid (fun tuple => some tuple.id) req.tuples holds slot).getD 0 := by
  refine foldlM_invariant
    (fun done temp => (temp.mapping slot).id =
      (revise table req.receiverUuid (fun tuple => some tuple.id) done holds slot).getD 0)
    (sound.stored slot inUse) ?_ completed
  intro done tuple rest temp next _split reached same stepped
  rcases assignApply_eq_ok stepped with ⟨index, found, rfl⟩
  rw [(assignApply_keeps located reached).lookup] at found
  rw [revise_snoc _ (Table.addressed_eq_some located found), Table.mapping_setMapping]
  by_cases atSlot : slot = (entry, index)
  · rw [atSlot, Function.update_self, Function.update_self]
    rfl
  · rw [Function.update_of_ne atSlot, Function.update_of_ne atSlot]
    exact same

/-- The second pass of an unassignment stores 0. -/
theorem unassignApply_stored (sound : Sound table holds) {after : Table}
    (located : table.nfyFindEntry req.receiverUuid = some entry)
    (completed : req.tuples.foldlM (unassignApply entry) table = .ok after) (slot : Slot)
    (inUse : table.InUse slot) :
    (after.mapping slot).id =
      (revise table req.receiverUuid (fun _ => none) req.tuples holds slot).getD 0 := by
  refine foldlM_invariant
    (fun done temp => (temp.mapping slot).id =
      (revise table req.receiverUuid (fun _ => none) done holds slot).getD 0)
    (sound.stored slot inUse) ?_ completed
  intro done tuple rest temp next _split reached same stepped
  rcases unassignApply_eq_ok stepped with ⟨index, found, rfl⟩
  rw [(unassignApply_keeps located reached).lookup] at found
  rw [revise_snoc _ (Table.addressed_eq_some located found), Table.mapping_setBitmap,
    Table.mapping_setMapping]
  by_cases atSlot : slot = (entry, index)
  · rw [atSlot, Function.update_self, Function.update_self]
    rfl
  · rw [Function.update_of_ne atSlot, Function.update_of_ne atSlot]
    exact same

/-- The validation pass of an assignment visits the mappings on the simulated
bitmap, and the second pass stores the new ids. -/
theorem assign_sound (sound : Sound table holds) (distinct : req.DistinctCookies)
    (safe : ZeroSafe table holds req (fun tuple => some tuple.id)) {after : Table}
    (located : table.nfyFindEntry req.receiverUuid = some entry)
    (completed : assignMappings table entry req.tuples = .ok after) :
    Sound after (revise table req.receiverUuid (fun tuple => some tuple.id) req.tuples holds) := by
  rcases assignMappings_eq_ok completed with ⟨simBitmap, applied, checked, stored, rfl⟩
  have storedIds := assignApply_stored sound located stored
  refine (assignMappings_keeps located completed).sound ?_ storedIds
  refine visits_inStep id (fun tuple => some tuple.id) sound distinct safe rfl ?_ checked
  intro done tuple rest bitmap next _split _reached stepped
  rcases assignCheck_eq_ok stepped with ⟨index, found, small, free, rfl⟩
  refine ⟨(entry, index), Table.addressed_eq_some located found, fun id given => ?_, fun other => ?_⟩
  · cases given
    rw [taken, id_eq, free]
    exact Bool.false_ne_true
  · rw [id_eq, taken_setBit _ small, Option.some.injEq, eq_comm]
    rfl

theorem unassign_sound (sound : Sound table holds) (distinct : req.DistinctCookies)
    (safe : ZeroSafe table holds req (fun _ => none)) {after : Table}
    (located : table.nfyFindEntry req.receiverUuid = some entry)
    (completed : unassignMappings table entry req.tuples = .ok after) :
    Sound after (revise table req.receiverUuid (fun _ => none) req.tuples holds) := by
  have applied := unassignMappings_eq_ok completed
  refine (unassignMappings_keeps located completed).sound ?_ (unassignApply_stored sound located applied)
  refine visits_inStep Table.globalBitmap (fun _ => none) sound distinct safe rfl ?_ applied
  intro done tuple rest temp next split reached stepped
  rcases unassignApply_eq_ok stepped with ⟨index, found, rfl⟩
  have kept := unassignApply_keeps located reached
  rw [kept.lookup] at found
  have named := Table.addressed_eq_some located found
  have untouched := (kept.2 (entry, index)).2
    (unnamed_by_earlier distinct split List.mem_cons_self named)
  refine ⟨(entry, index), named, by simp, fun other => ?_⟩
  rw [Table.globalBitmap_setBitmap, untouched]
  simp

/-! ## Registration -/

/-- What is held once a registration has got as far as the table `temp`. -/
def registering (table : Table) (holds : Slot -> Option U16) (temp : Table) : Slot -> Option U16 :=
  fun slot => if ¬ table.InUse slot ∧ temp.InUse slot then some (temp.mapping slot).id else holds slot

/-- The invariant does not depend on entries without mappings in use. -/
theorem Sound.claimed (sound : Sound table holds) {claimed : Table}
    (located : table.findOrCreateEntry req.receiverUuid = some (entry, claimed)) :
    Sound claimed holds := by
  rcases Table.findOrCreateEntry_keeps located with ⟨sameBitmap, inUse_iff, sameMapping⟩
  have sameHolder : holder claimed holds = holder table holds := by
    funext slot
    simp only [holder, inUse_iff slot]
  constructor
  · rw [sameHolder, sameBitmap]
    exact sound.inStep
  · intro slot inUse
    have inUseBefore := (inUse_iff slot).mp inUse
    rw [sameMapping slot inUseBefore]
    exact sound.stored slot inUseBefore

/-- Filling a free mapping gives it the id it is filled with. -/
theorem holder_registering_fill {temp : Table} {slot : Slot} {mapping : NfyMapping} (bitmap : U64)
    (entryInUse : (temp.entries slot.1).inUse = true) (filled : mapping.inUse = true)
    (wasFree : ¬ table.InUse slot) :
    holder ((temp.setMapping slot mapping).setBitmap bitmap)
        (registering table holds ((temp.setMapping slot mapping).setBitmap bitmap)) =
      Function.update (holder temp (registering table holds temp)) slot (some mapping.id) := by
  funext other
  by_cases same : other = slot
  · subst same
    have inUse : ((temp.setMapping other mapping).setBitmap bitmap).InUse other := by
      rw [Table.InUse, Table.entries_setBitmap, Table.inUse_setMapping, Table.mapping_setBitmap,
        Table.mapping_setMapping_self]
      exact ⟨entryInUse, filled⟩
    rw [holder_of_inUse inUse, registering, if_pos ⟨wasFree, inUse⟩, Function.update_self,
      Table.mapping_setBitmap, Table.mapping_setMapping_self]
  · have sameMapping : ((temp.setMapping slot mapping).setBitmap bitmap).mapping other =
        temp.mapping other := by
      rw [Table.mapping_setBitmap, Table.mapping_setMapping_of_ne temp mapping same]
    have inUse_iff : ((temp.setMapping slot mapping).setBitmap bitmap).InUse other <->
        temp.InUse other := by
      rw [Table.InUse, Table.InUse, Table.entries_setBitmap, Table.inUse_setMapping, sameMapping]
    rw [Function.update_of_ne same]
    simp only [holder, registering, inUse_iff, sameMapping]

/-- A registration takes a free mapping for each tuple and sets its bit. -/
theorem register_sound (sound : Sound table holds) {after : Table}
    (entryInUse : (table.entries entry).inUse = true)
    (completed : req.tuples.foldlM (registerTuple table entry req.srcId) table = .ok after) :
    Sound after (registering table holds after) := by
  constructor
  · refine foldlM_invariant
      (fun _done temp => InStep (fun _ => False) (holder temp (registering table holds temp))
        (taken temp.globalBitmap)) ?_ ?_ completed
    · have same : registering table holds table = holds := by
        funext slot
        exact if_neg (fun both => both.1 both.2)
      rw [same]
      exact sound.inStep
    · intro done tuple rest temp next _split reached inStep stepped
      rcases registerTuple_eq_ok stepped with ⟨_fresh, small, clear, index, free, rfl⟩
      have wasFree : ¬ table.InUse (entry, index) := by
        intro inUse
        rw [register_keeps reached inUse.2, inUse.2] at free
        cases free
      have wasIdle : holder temp (registering table holds temp) (entry, index) = none :=
        if_neg (fun inUse => by simp [inUse.2] at free)
      have tempEntry : (temp.entries entry).inUse = true :=
        ((register_mapping reached).1 entry).1.trans entryInUse
      rw [holder_registering_fill _ tempEntry rfl wasFree]
      refine inStep.acquire wasIdle ?_ (fun _ => False.elim) (taken_setBit temp.globalBitmap small)
      rw [taken, clear]
      exact Bool.false_ne_true
  · intro slot inUse
    by_cases before : table.InUse slot
    · rw [registering, if_neg (fun both => both.1 before), register_keeps completed before.2]
      exact sound.stored slot before
    · rw [registering, if_pos ⟨before, inUse⟩]
      rfl

end Operations

/-! ## Runs -/

/-- A successful request, under the condition, keeps the invariant. -/
theorem recordHolding_sound {state : Tracked} {after : Table} {message : MsgSendDirectReq2}
    {id : MessageID} (sound : Sound state.table state.holds)
    (distinct : (NotifyReq.ofMessage message).DistinctCookies) (safe : ReservedSafe state message)
    (selected : messageId (NotifyReq.ofMessage message).msgInfo = some id)
    (processed : process state.table (NotifyReq.ofMessage message) id = some (.ok, after)) :
    Sound after (state.recordHolding after (NotifyReq.ofMessage message) id) := by
  unfold ReservedSafe at safe
  rw [selected] at safe
  cases process_outcome processed with
  | @registered _ entry claimed _ kind _counted located completed =>
      have registered := register_sound (sound.claimed located)
        (Table.findOrCreateEntry_spec located).2 completed
      have sameRecord : state.recordHolding after (NotifyReq.ofMessage message) id =
          registering claimed state.holds after := by
        funext slot
        rcases kind with rfl | rfl <;>
          simp only [Tracked.recordHolding, registering,
            (Table.findOrCreateEntry_keeps located).2.1 slot]
      rw [sameRecord]
      exact registered
  | unregistered kind located completed =>
      rcases kind with rfl | rfl
      · exact unregister_sound sound distinct safe located completed
      · exact unregister_sound sound distinct safe located completed
  | assigned located completed => exact assign_sound sound distinct safe located completed
  | unassigned located completed => exact unassign_sound sound distinct safe located completed
  | unchanged failed => exact absurd rfl failed
  | leaked _ _ _ _ _ failed => exact absurd rfl failed

/-- One step of the service, under the condition, keeps the invariant. -/
theorem trackedStep_sound {state next : Tracked} {message : MsgSendDirectReq2}
    (sound : Sound state.table state.holds)
    (distinct : (NotifyReq.ofMessage message).DistinctCookies) (safe : ReservedSafe state message)
    (stepped : trackedStep state message = some next) : Sound next.table next.holds := by
  rcases trackedStep_cases stepped with ⟨id, selected, processed, recorded⟩ |
    ⟨sameHolds, same | ⟨id, status, failed, processed⟩⟩
  · rw [recorded]
    exact recordHolding_sound sound distinct safe selected processed
  · rw [sameHolds, same]
    exact sound
  · rw [sameHolds]
    generalize next.table = after at processed
    cases process_outcome processed with
    | registered => exact absurd rfl failed
    | unregistered => exact absurd rfl failed
    | assigned => exact absurd rfl failed
    | unassigned => exact absurd rfl failed
    | unchanged => exact sound
    | leaked _ _ unknown empty _ _ =>
        exact sound.claimed (Table.findOrCreateEntry_of_unknown unknown empty)

/-- In every run whose requests have distinct cookies and respect the reserved
mappings, no id has two holders and the bitmap records exactly the held ids. -/
theorem exclusive_and_exact (messages : List MsgSendDirectReq2) (state : Tracked)
    (distinct : forall message, message ∈ messages -> (NotifyReq.ofMessage message).DistinctCookies)
    (safe : Along trackedStep ReservedSafe Tracked.start messages)
    (reached : run trackedStep Tracked.start messages = some state) :
    state.Exclusive ∧ state.Exact := by
  refine Sound.exclusive_exact (run_invariant
    (fun before message next sound (allowed : ReservedSafe before message ∧
      (NotifyReq.ofMessage message).DistinctCookies) stepped =>
      trackedStep_sound sound allowed.2 allowed.1 stepped) start_sound ?_ reached)
  exact safe.and_mem distinct

/-- A reserved mapping is removed while nothing holds the id 0. -/
def reservedRemoval : List MsgSendDirectReq2 :=
  [compose 1 7 .setup [⟨1, 5, .global⟩, ⟨2, 6, .global⟩] (by decide),
    compose 1 7 .unassign [⟨2, 0, .global⟩] (by decide),
    compose 1 7 .remove [⟨2, 0, .global⟩] (by decide)]

theorem reservedRemoval_exclusive_and_exact :
    exists state, run trackedStep Tracked.start reservedRemoval = some state ∧
      state.Holds (0, 0) 5 ∧ state.Exclusive ∧ state.Exact := by
  have reached := run_eq_finalState
    (show (run trackedStep Tracked.start reservedRemoval).isSome = true by decide +kernel)
  exact ⟨_, reached, by decide +kernel,
    exclusive_and_exact reservedRemoval _ (by decide +kernel) (by decide +kernel) reached⟩

/-- The same with the id 0 held by another mapping. -/
def reservedClash : List MsgSendDirectReq2 :=
  [compose 1 7 .setup [⟨1, 0, .global⟩, ⟨2, 5, .global⟩] (by decide),
    compose 1 7 .unassign [⟨2, 0, .global⟩] (by decide),
    compose 1 7 .remove [⟨2, 0, .global⟩] (by decide)]

/-- Without the condition the bitmap does not stay exact: removing a reserved
mapping clears the bit of the mapping that holds the id 0. -/
theorem not_always_exclusive_and_exact :
    ¬ forall messages state,
      (forall message, message ∈ messages -> (NotifyReq.ofMessage message).DistinctCookies) ->
      run trackedStep Tracked.start messages = some state -> state.Exclusive ∧ state.Exact := by
  intro always
  have reached := run_eq_finalState
    (show (run trackedStep Tracked.start reservedClash).isSome = true by decide +kernel)
  have exact := (always reservedClash _ (by decide +kernel) reached).2 0
  have clear : (finalState trackedStep Tracked.start reservedClash).table.globalBitmap.getLsbD
      (0 : U16).toNat = false := by decide +kernel
  have held : (finalState trackedStep Tracked.start reservedClash).Holds (0, 0) 0 := by decide +kernel
  exact Bool.false_ne_true (clear.symm.trans (exact.mpr ⟨(0, 0), held⟩))

end Notify
end SecureServices
