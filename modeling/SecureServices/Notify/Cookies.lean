import SecureServices.Notify.Atomicity
import SecureServices.Notify.Progress

namespace SecureServices
namespace Notify

open Library Ffa

/-!
# Cookies within a service

A cookie is the name under which a mapping is removed, assigned and
unassigned, and every lookup takes the first mapping that has it.  The lookups
are unambiguous as long as no two mappings of an entry have the same cookie.

A registration sees to that for the mappings that exist already.  It does not
compare the tuples of one request with each other: the cookie is looked up in
the service, while the tuples before it are in the copy.  Cookies are therefore
unique in exactly those runs in which no accepted registration repeats one.
-/

/-- Mappings in use of the same entry have different cookies. -/
def UniqueCookies (table : Table) : Prop :=
  forall entry first second, table.InUse (entry, first) -> table.InUse (entry, second) ->
    (table.mapping (entry, first)).cookie = (table.mapping (entry, second)).cookie -> first = second

/-- Some mapping in use of the entry has the cookie. -/
def Table.KnowsCookie (table : Table) (entry : Fin notifyMaxServices) (cookie : U32) : Prop :=
  exists index, table.InUse (entry, index) ∧ (table.mapping (entry, index)).cookie = cookie

/-- The lookup by the cookie of a mapping leads to that mapping. -/
def LookupsExact (table : Table) : Prop :=
  forall entry index, table.InUse (entry, index) ->
    table.nfyFindMatchingCookie entry (table.mapping (entry, index)).cookie = some index

/-- A registration passes all checks: the ids are usable, no cookie is known
for the receiver, and there is an entry with a free mapping for every tuple. -/
def Accepts (table : Table) (req : NotifyReq) : Prop :=
  1 ≤ req.count ∧ req.count ≤ notifyMaxTuplesPerReq ∧ Registrable table.globalBitmap req.tuples ∧
    (forall tuple, tuple ∈ req.tuples -> table.addressed req.receiverUuid tuple = none) ∧
    (forall entry, table.nfyFindEntry req.receiverUuid = some entry ->
      table.used entry + req.tuples.length ≤ notifyMaxMappings) ∧
    (table.nfyFindEntry req.receiverUuid = none -> table.nfyFindEmptySlot.isSome = true)

/-- The message registers two mappings under one cookie. -/
def RepeatsCookie (table : Table) (message : MsgSendDirectReq2) : Prop :=
  let req := NotifyReq.ofMessage message
  (messageId req.msgInfo = some .setup ∨ messageId req.msgInfo = some .add) ∧
    Accepts table req ∧ ¬ req.DistinctCookies

/-! ## Unique cookies -/

theorem UniqueCookies.lookupsExact {table : Table} (unique : UniqueCookies table) :
    LookupsExact table := by
  intro entry index inUse
  have search : (table.nfyFindMatchingCookie entry (table.mapping (entry, index)).cookie).isSome := by
    apply Fin.isSome_find?_of_eq_true (i := index)
    rw [inUse.2, beq_self_eq_true, Bool.and_self]
  rcases Option.isSome_iff_exists.mp search with ⟨first, found⟩
  have spec := Table.nfyFindMatchingCookie_spec found
  rw [found, unique entry first index ⟨inUse.1, spec.1⟩ inUse spec.2]

/-- Cookies stay unique where no mapping is taken into use and none changes
its cookie. -/
theorem UniqueCookies.of_kept {table after : Table} (unique : UniqueCookies table)
    (kept : forall slot, after.InUse slot ->
      table.InUse slot ∧ (after.mapping slot).cookie = (table.mapping slot).cookie) :
    UniqueCookies after := by
  intro entry first second firstInUse secondInUse same
  rcases kept _ firstInUse with ⟨firstBefore, firstCookie⟩
  rcases kept _ secondInUse with ⟨secondBefore, secondCookie⟩
  rw [firstCookie, secondCookie] at same
  exact unique entry first second firstBefore secondBefore same

/-- A cookie is looked up in vain exactly when no mapping has it. -/
theorem Table.nfyFindMatchingCookie_eq_none {table : Table} {entry : Fin notifyMaxServices}
    (entryInUse : (table.entries entry).inUse = true) (cookie : U32) :
    table.nfyFindMatchingCookie entry cookie = none <-> ¬ table.KnowsCookie entry cookie := by
  rw [nfyFindMatchingCookie, Fin.find?_eq_none_iff]
  constructor
  · rintro missing ⟨index, inUse, same⟩
    have skipped := missing index
    rw [inUse.2, same, beq_self_eq_true] at skipped
    cases skipped
  · intro unknown index
    apply Bool.eq_false_of_not_eq_true
    intro selected
    rw [Bool.and_eq_true, beq_iff_eq] at selected
    exact unknown ⟨index, ⟨entryInUse, selected.1⟩, selected.2⟩

/-! ## Filling a free mapping -/

section Fill

variable {table : Table} {entry : Fin notifyMaxServices} {index : Fin notifyMaxMappings}
  {mapping : NfyMapping} (bitmap : U64)

theorem inUse_fill (entryInUse : (table.entries entry).inUse = true) (filled : mapping.inUse = true)
    (slot : Slot) :
    ((table.setMapping (entry, index) mapping).setBitmap bitmap).InUse slot <->
      table.InUse slot ∨ slot = (entry, index) := by
  have sameEntries := (Table.SameEntries.refl table).set (entry, index) mapping bitmap
  by_cases here : slot = (entry, index)
  · rw [here, Table.InUse, Table.mapping_setBitmap, Table.mapping_setMapping_self, filled,
      (sameEntries entry).1, entryInUse]
    simp
  · have flag : (((table.setMapping (entry, index) mapping).setBitmap bitmap).mapping slot).inUse =
        (table.mapping slot).inUse := by
      rw [Table.mapping_setBitmap, Table.mapping_setMapping_of_ne table mapping here]
    rw [sameEntries.inUse_iff flag, or_iff_left here]

theorem mapping_fill (free : (table.mapping (entry, index)).inUse = false) {slot : Slot}
    (inUse : table.InUse slot) :
    ((table.setMapping (entry, index) mapping).setBitmap bitmap).mapping slot = table.mapping slot := by
  rw [Table.mapping_setBitmap]
  apply Table.mapping_setMapping_of_ne
  intro here
  rw [here, Table.InUse, free] at inUse
  cases inUse.2

theorem knowsCookie_fill (entryInUse : (table.entries entry).inUse = true)
    (free : (table.mapping (entry, index)).inUse = false) (filled : mapping.inUse = true)
    (cookie : U32) :
    ((table.setMapping (entry, index) mapping).setBitmap bitmap).KnowsCookie entry cookie <->
      table.KnowsCookie entry cookie ∨ cookie = mapping.cookie := by
  have new : ((table.setMapping (entry, index) mapping).setBitmap bitmap).mapping (entry, index) =
      mapping := by
    rw [Table.mapping_setBitmap, Table.mapping_setMapping_self]
  constructor
  · rintro ⟨other, inUse, same⟩
    rcases (inUse_fill bitmap entryInUse filled _).mp inUse with before | here
    · rw [mapping_fill bitmap free before] at same
      exact Or.inl ⟨other, before, same⟩
    · rw [here, new] at same
      exact Or.inr same.symm
  · rintro (⟨other, inUse, same⟩ | same)
    · refine ⟨other, (inUse_fill bitmap entryInUse filled _).mpr (Or.inl inUse), ?_⟩
      rw [mapping_fill bitmap free inUse]
      exact same
    · refine ⟨index, (inUse_fill bitmap entryInUse filled _).mpr (Or.inr rfl), ?_⟩
      rw [new]
      exact same.symm

/-- Filling a free mapping keeps cookies unique exactly when no mapping of the
entry has its cookie. -/
theorem uniqueCookies_fill (entryInUse : (table.entries entry).inUse = true)
    (free : (table.mapping (entry, index)).inUse = false) (filled : mapping.inUse = true) :
    UniqueCookies ((table.setMapping (entry, index) mapping).setBitmap bitmap) <->
      UniqueCookies table ∧ ¬ table.KnowsCookie entry mapping.cookie := by
  have new : ((table.setMapping (entry, index) mapping).setBitmap bitmap).mapping (entry, index) =
      mapping := by
    rw [Table.mapping_setBitmap, Table.mapping_setMapping_self]
  have inUse_iff : forall slot, ((table.setMapping (entry, index) mapping).setBitmap bitmap).InUse slot <->
      table.InUse slot ∨ slot = (entry, index) := inUse_fill bitmap entryInUse filled
  constructor
  · intro unique
    constructor
    · intro owner first second firstInUse secondInUse same
      apply unique owner first second ((inUse_iff _).mpr (Or.inl firstInUse))
        ((inUse_iff _).mpr (Or.inl secondInUse))
      rw [mapping_fill bitmap free firstInUse, mapping_fill bitmap free secondInUse]
      exact same
    · rintro ⟨other, inUse, same⟩
      have coincide : other = index := by
        apply unique entry other index ((inUse_iff _).mpr (Or.inl inUse)) ((inUse_iff _).mpr (Or.inr rfl))
        rw [mapping_fill bitmap free inUse, new]
        exact same
      rw [coincide, Table.InUse, free] at inUse
      cases inUse.2
  · rintro ⟨unique, unknown⟩ owner first second firstInUse secondInUse same
    rcases (inUse_iff _).mp firstInUse with firstBefore | atFirst <;>
      rcases (inUse_iff _).mp secondInUse with secondBefore | atSecond
    · rw [mapping_fill bitmap free firstBefore, mapping_fill bitmap free secondBefore] at same
      exact unique owner first second firstBefore secondBefore same
    · cases atSecond
      rw [mapping_fill bitmap free firstBefore, new] at same
      exact absurd ⟨first, firstBefore, same⟩ unknown
    · cases atFirst
      rw [mapping_fill bitmap free secondBefore, new] at same
      exact absurd ⟨second, secondBefore, same.symm⟩ unknown
    · exact (Prod.mk.inj atFirst).2.trans (Prod.mk.inj atSecond).2.symm

end Fill

/-! ## Completed registrations -/

theorem register_entryInUse {table final : Table} {entry : Fin notifyMaxServices} {srcId : U16}
    {tuples : List NotifyTuple} (entryInUse : (table.entries entry).inUse = true)
    (completed : tuples.foldlM (registerTuple table entry srcId) table = .ok final) :
    (final.entries entry).inUse = true := by
  rw [((register_mapping completed).1 entry).1]
  exact entryInUse

/-- The cookies of an entry after a registration are those before it and those
of its tuples. -/
theorem register_knowsCookie {table final : Table} {entry : Fin notifyMaxServices} {srcId : U16}
    {tuples : List NotifyTuple} (entryInUse : (table.entries entry).inUse = true)
    (completed : tuples.foldlM (registerTuple table entry srcId) table = .ok final) (cookie : U32) :
    final.KnowsCookie entry cookie <->
      table.KnowsCookie entry cookie ∨ cookie ∈ tuples.map NotifyTuple.cookie := by
  refine foldlM_invariant
    (fun done temp => temp.KnowsCookie entry cookie <->
      table.KnowsCookie entry cookie ∨ cookie ∈ done.map NotifyTuple.cookie) (by simp) ?_ completed
  intro done tuple rest temp next _split reached same stepped
  rcases registerTuple_eq_ok stepped with ⟨_fresh, _small, _clear, index, free, rfl⟩
  rw [knowsCookie_fill _ (register_entryInUse entryInUse reached) free rfl, same, List.map_append,
    List.mem_append, or_assoc]
  simp

/-- A completed registration leaves unique cookies exactly when there were
before and its own tuples do not repeat one. -/
theorem register_uniqueCookies {table final : Table} {entry : Fin notifyMaxServices} {srcId : U16}
    {tuples : List NotifyTuple} (entryInUse : (table.entries entry).inUse = true)
    (completed : tuples.foldlM (registerTuple table entry srcId) table = .ok final) :
    UniqueCookies final <-> UniqueCookies table ∧ (tuples.map NotifyTuple.cookie).Nodup := by
  refine foldlM_invariant
    (fun done temp => UniqueCookies temp <->
      UniqueCookies table ∧ (done.map NotifyTuple.cookie).Nodup) (by simp) ?_ completed
  intro done tuple rest temp next _split reached same stepped
  rcases registerTuple_eq_ok stepped with ⟨fresh, _small, _clear, index, free, rfl⟩
  have unknown := (Table.nfyFindMatchingCookie_eq_none entryInUse _).mp fresh
  rw [uniqueCookies_fill _ (register_entryInUse entryInUse reached) free rfl, same,
    register_knowsCookie entryInUse reached, or_iff_right unknown, List.map_append, List.map_singleton,
    and_assoc]
  apply and_congr_right
  intro _unique
  rw [List.nodup_append_comm, List.singleton_append, List.nodup_cons, and_comm]

/-- A completed registration had room for all its tuples. -/
theorem register_room {table final : Table} {entry : Fin notifyMaxServices} {srcId : U16}
    {tuples : List NotifyTuple}
    (completed : tuples.foldlM (registerTuple table entry srcId) table = .ok final) :
    table.used entry + tuples.length ≤ notifyMaxMappings := by
  rw [← register_used completed, Table.used]
  exact (Finset.card_filter_le _ _).trans (Nat.le_of_eq (Finset.card_fin _))

/-- A registration that completes is one that passes all checks. -/
theorem accepts_of_completed {table claimed after : Table} {req : NotifyReq}
    {entry : Fin notifyMaxServices} (counted : 1 ≤ req.count ∧ req.count ≤ notifyMaxTuplesPerReq)
    (located : table.findOrCreateEntry req.receiverUuid = some (entry, claimed))
    (completed : req.tuples.foldlM (registerTuple claimed entry req.srcId) claimed = .ok after) :
    Accepts table req := by
  have registrable := registrable_of_completed completed
  have fresh : forall tuple, tuple ∈ req.tuples ->
      claimed.nfyFindMatchingCookie entry tuple.cookie = none := by
    refine forall_mem_of_foldlM ?_ completed
    intro temp tuple next stepped
    exact (registerTuple_eq_ok stepped).1
  rcases Table.findOrCreateEntry_cases located with ⟨known, rfl⟩ | ⟨unknown, empty, rfl⟩
  · refine ⟨counted.1, counted.2, registrable, fun tuple member => ?_, fun other same => ?_,
      fun missing => ?_⟩
    · rw [Table.addressed_of_located known, fresh tuple member, Option.map_none]
    · cases known.symm.trans same
      exact register_room completed
    · rw [known] at missing
      cases missing
  · refine ⟨counted.1, counted.2, registrable, fun tuple _member => ?_, fun other same => ?_,
      fun _ => ?_⟩
    · rw [Table.addressed, unknown, Option.bind_none]
    · rw [unknown] at same
      cases same
    · rw [empty, Option.isSome_some]

/-- A counted registration for a known receiver is a loop over the table. -/
theorem registerRequest_known {table : Table} {req : NotifyReq} {entry : Fin notifyMaxServices}
    (counted : 1 ≤ req.count ∧ req.count ≤ notifyMaxTuplesPerReq)
    (known : table.nfyFindEntry req.receiverUuid = some entry) :
    registerRequest table req =
      settle table (req.tuples.foldlM (registerTuple table entry req.srcId) table) := by
  have located : table.findOrCreateEntry req.receiverUuid = some (entry, table) := by
    unfold Table.findOrCreateEntry
    split
    next found =>
      cases known.symm.trans found
      rfl
    next missing => rw [known] at missing; cases missing
  rw [registerRequest, if_neg (not_not.mpr counted), located]
  rfl

/-- A registration that passes all checks completes. -/
theorem registerRequest_of_accepts {table : Table} {req : NotifyReq} (accepts : Accepts table req)
    (short : req.tuples.length ≤ notifyMaxTuplesPerReq) :
    exists after, registerRequest table req = some (.ok, after) := by
  rcases accepts with ⟨positive, bounded, registrable, fresh, room, vacant⟩
  cases known : table.nfyFindEntry req.receiverUuid with
  | some entry =>
      have unknown : forall tuple, tuple ∈ req.tuples ->
          table.nfyFindMatchingCookie entry tuple.cookie = none := by
        intro tuple member
        have unnamed := fresh tuple member
        rw [Table.addressed_of_located known, Option.map_eq_none_iff] at unnamed
        exact unnamed
      rcases register_completes req.srcId registrable unknown (room entry known) with ⟨after, completed⟩
      refine ⟨after, ?_⟩
      rw [registerRequest_known ⟨positive, bounded⟩ known, completed]
      rfl
  | none =>
      rcases Option.isSome_iff_exists.mp (vacant known) with ⟨entry, empty⟩
      have completes : exists final, req.tuples.foldlM
          (registerTuple (table.claimEntry entry req.receiverUuid) entry req.srcId)
          (table.claimEntry entry req.receiverUuid) = .ok final :=
        (register_claimed_iff req.srcId short).mpr registrable
      rcases completes with ⟨after, completed⟩
      refine ⟨after, ?_⟩
      rw [registerRequest_unknown ⟨positive, bounded⟩ known empty, completed]
      rfl

/-! ## Runs -/

theorem UniqueCookies.new : UniqueCookies Table.new := by
  intro entry first second inUse
  cases inUse.1

theorem UniqueCookies.findOrCreateEntry {table claimed : Table} {uuid : Uuid}
    {entry : Fin notifyMaxServices} (unique : UniqueCookies table)
    (located : table.findOrCreateEntry uuid = some (entry, claimed)) : UniqueCookies claimed := by
  rcases Table.findOrCreateEntry_keeps located with ⟨_, inUse_iff, same⟩
  apply unique.of_kept
  intro slot inUse
  have before := (inUse_iff slot).mp inUse
  exact ⟨before, congrArg NfyMapping.cookie (same slot before)⟩

/-- The assignment operations keep flag and cookie of every mapping. -/
theorem UniqueCookies.keeps {table after : Table} {receiver : Uuid} {tuples : List NotifyTuple}
    (unique : UniqueCookies table) (kept : Keeps table receiver tuples after) :
    UniqueCookies after := by
  apply unique.of_kept
  intro slot inUse
  exact ⟨(kept.1.inUse_iff (kept.2 slot).1.1).mp inUse, (kept.2 slot).1.2.1⟩

theorem UniqueCookies.unregistered {table after : Table} {receiver : Uuid}
    {entry : Fin notifyMaxServices} {srcId : U16} {tuples : List NotifyTuple}
    (unique : UniqueCookies table) (located : table.nfyFindEntry receiver = some entry)
    (completed : tuples.foldlM (unregisterTuple table entry srcId) table = .ok after) :
    UniqueCookies after := by
  rcases unregister_mapping located completed with ⟨sameEntries, mappings⟩
  apply unique.of_kept
  intro slot inUse
  by_cases named : exists tuple, tuple ∈ tuples ∧ table.addressed receiver tuple = some slot
  · rw [Table.InUse, (mappings slot).1 named] at inUse
    cases inUse.2
  · have same := (mappings slot).2 (fun tuple member addressed => named ⟨tuple, member, addressed⟩)
    rw [same]
    exact ⟨(sameEntries.inUse_iff (congrArg _ same)).mp inUse, rfl⟩

/-- A message that repeats a cookie registers it. -/
theorem RepeatsCookie.processed {table : Table} {message : MsgSendDirectReq2} {id : MessageID}
    (repeats : RepeatsCookie table message)
    (selected : messageId (NotifyReq.ofMessage message).msgInfo = some id) :
    (id = .setup ∨ id = .add) ∧
      exists after, process table (NotifyReq.ofMessage message) id = some (.ok, after) := by
  rcases repeats with ⟨kind, accepts, _⟩
  have registered := registerRequest_of_accepts accepts (length_tuples_ofMessage message)
  rw [selected] at kind
  rcases kind with same | same <;> cases same
  · exact ⟨Or.inl rfl, registered⟩
  · exact ⟨Or.inr rfl, registered⟩

/-- A step from unique cookies leads to unique cookies exactly when it does
not register one twice. -/
theorem step_uniqueCookies {table next : Table} {message : MsgSendDirectReq2}
    (unique : UniqueCookies table) (stepped : step table message = some next) :
    UniqueCookies next <-> ¬ RepeatsCookie table message := by
  rcases step_cases stepped with ⟨noId, rfl⟩ | ⟨id, status, selected, processed⟩
  · refine iff_of_true unique ?_
    rintro ⟨kind, _⟩
    rw [noId] at kind
    rcases kind with impossible | impossible <;> cases impossible
  · have refused : status ≠ .ok -> ¬ RepeatsCookie table message := by
      intro failed repeats
      rcases (repeats.processed selected).2 with ⟨after, accepted⟩
      rw [processed] at accepted
      cases accepted
      exact failed rfl
    cases process_outcome processed with
    | registered kind counted located completed =>
        have entryInUse := (Table.findOrCreateEntry_spec located).2
        have accepts := accepts_of_completed ⟨counted, Nat.min_le_right _ _⟩ located completed
        rw [register_uniqueCookies entryInUse completed, and_iff_right (unique.findOrCreateEntry located)]
        constructor
        · rintro distinct ⟨_, _, repeated⟩
          exact repeated distinct
        · intro single
          by_contra repeated
          apply single
          rw [RepeatsCookie, selected]
          exact ⟨kind.imp (congrArg some) (congrArg some), accepts, repeated⟩
    | unregistered kind located completed =>
        refine iff_of_true (unique.unregistered located completed) (fun repeats => ?_)
        rcases kind with rfl | rfl <;> rcases (repeats.processed selected).1 with same | same <;> cases same
    | assigned located completed =>
        refine iff_of_true (unique.keeps (assignMappings_keeps located completed)) (fun repeats => ?_)
        rcases (repeats.processed selected).1 with same | same <;> cases same
    | unassigned located completed =>
        refine iff_of_true (unique.keeps (unassignMappings_keeps located completed)) (fun repeats => ?_)
        rcases (repeats.processed selected).1 with same | same <;> cases same
    | unchanged failed => exact iff_of_true unique (refused failed)
    | leaked _ _ unknown empty _ failed =>
        exact iff_of_true
          (unique.findOrCreateEntry (Table.findOrCreateEntry_of_unknown unknown empty)) (refused failed)

theorem step_progress (table : Table) (message : MsgSendDirectReq2) (bounded : Bounded table) :
    exists next, step table message = some next ∧ Bounded next := by
  rcases ffaMsgSendDirectReq2_progress bounded message with ⟨result, after, handled, kept, _⟩
  refine ⟨after, ?_, kept⟩
  rw [step, handled]
  rfl

/-- Cookies are unique, and lookups exact, in all states of a run exactly when
no message of the run registers two mappings under one cookie. -/
theorem unique_iff_none_repeated (messages : List MsgSendDirectReq2) :
    (forall before after table, messages = before ++ after -> run step Table.new before = some table ->
      UniqueCookies table ∧ LookupsExact table) <->
    Along step (fun table message => ¬ RepeatsCookie table message) Table.new messages := by
  rw [← reached_iff_along step_progress
    (fun table message next unique stepped => step_uniqueCookies unique stepped) Bounded.new
    UniqueCookies.new messages]
  constructor
  · intro every before after table split reached
    exact (every before after table split reached).1
  · intro every before after table split reached
    have unique := every before after table split reached
    exact ⟨unique, unique.lookupsExact⟩

/-- A setup that registers two ids under one cookie. -/
def sharedCookie : MsgSendDirectReq2 :=
  compose 2 9 .setup [⟨1, 10, .global⟩, ⟨1, 11, .global⟩] (Nat.le_add_left 2 5)

/-- A setup with one cookie in two tuples is granted, and the cookie no longer
identifies a mapping. -/
theorem not_always_unique :
    ¬ forall messages table, run step Table.new messages = some table ->
      UniqueCookies table ∧ LookupsExact table := by
  intro always
  have reached := run_eq_finalState
    (show (run step Table.new [sharedCookie]).isSome = true by decide +kernel)
  have coincide := (always [sharedCookie] _ reached).1 0 0 1 (by decide +kernel) (by decide +kernel)
    (by decide +kernel)
  cases coincide

end Notify
end SecureServices
