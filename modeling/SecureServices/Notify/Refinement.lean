import SecureServices.Library.Slots
import SecureServices.Notify.Batching
import SecureServices.Notify.Cookies
import SecureServices.Notify.Registry

namespace SecureServices
namespace Notify

open Library Ffa

/-!
# The table is a registry

Which slot a mapping is in, and in which order slots are filled, cannot be
told from outside.  As long as no request repeats a cookie, the table answers
every request as the registry does that has the same services, the same
registrations and the same ids in use, and it stands for that registry
afterwards.
-/

/-! ## What a table stands for -/

/-- What the lookup by a cookie leads to. -/
def Table.registration (table : Table) (entry : Fin notifyMaxServices) (cookie : U32) : Option Registration :=
  (table.nfyFindMatchingCookie entry cookie).map (fun index =>
    let mapping := table.mapping (entry, index)
    ⟨mapping.id, mapping.ntype, mapping.srcId⟩)

def Table.registry (table : Table) : Registry where
  services := { service | (table.nfyFindEntry service).isSome = true }
  registered := fun service cookie =>
    (table.nfyFindEntry service).bind (fun entry => table.registration entry cookie)
  ids := { id | taken table.globalBitmap id }

/-- A well-formed table in which cookies are unique. -/
structure Faithful (table : Table) : Prop extends WellFormed table where
  uniqueCookies : UniqueCookies table

theorem mem_services {table : Table} {service : Uuid} :
    service ∈ table.registry.services <-> exists entry, table.nfyFindEntry service = some entry :=
  Option.isSome_iff_exists

theorem registered_of_located {table : Table} {service : Uuid} {entry : Fin notifyMaxServices}
    (located : table.nfyFindEntry service = some entry) (cookie : U32) :
    table.registry.registered service cookie = table.registration entry cookie := by
  change (table.nfyFindEntry service).bind (fun entry => table.registration entry cookie) = _
  rw [located, Option.bind_some]

theorem registration_of_found {table : Table} {entry : Fin notifyMaxServices} {cookie : U32}
    {index : Fin notifyMaxMappings} (found : table.nfyFindMatchingCookie entry cookie = some index) :
    table.registration entry cookie = some ⟨(table.mapping (entry, index)).id,
      (table.mapping (entry, index)).ntype, (table.mapping (entry, index)).srcId⟩ := by
  rw [Table.registration, found]
  rfl

theorem registration_of_missing {table : Table} {entry : Fin notifyMaxServices} {cookie : U32}
    (missing : table.nfyFindMatchingCookie entry cookie = none) : table.registration entry cookie = none := by
  rw [Table.registration, missing]
  rfl

theorem registry_new : Table.new.registry = Registry.empty := by
  have unknown : forall service, Table.new.nfyFindEntry service = none := by
    intro service
    rw [Table.nfyFindEntry, Fin.find?_eq_none_iff]
    intro entry
    simp [Table.new, NfyEntry.default]
  have services : { service | (Table.new.nfyFindEntry service).isSome = true } = ∅ := by
    simp [unknown]
  have ids : { id | taken Table.new.globalBitmap id } = ∅ := by
    simp [Table.new, taken]
  rw [Table.registry, Registry.empty, services, ids]
  simp [unknown]

/-! ## Writing one mapping -/

section Write

variable {table : Table} {service : Uuid} {entry : Fin notifyMaxServices} {index : Fin notifyMaxMappings}
  {mapping : NfyMapping} {bitmap : U64} {cookie : U32} {registration : Option Registration} {ids : Set U16}

/-- Where a lookup leads to another slot, a written mapping makes no difference. -/
theorem registration_of_lookup {other : U32}
    (same : ((table.setMapping (entry, index) mapping).setBitmap bitmap).nfyFindMatchingCookie entry other =
      table.nfyFindMatchingCookie entry other)
    (elsewhere : table.nfyFindMatchingCookie entry other ≠ some index) :
    ((table.setMapping (entry, index) mapping).setBitmap bitmap).registration entry other =
      table.registration entry other := by
  rw [Table.registration, Table.registration, same]
  cases found : table.nfyFindMatchingCookie entry other with
  | none => rfl
  | some position =>
      have different : (entry, position) ≠ (entry, index) := by
        intro here
        rw [found] at elsewhere
        exact elsewhere (congrArg some (Prod.mk.inj here).2)
      rw [Option.map_some, Option.map_some, Table.mapping_setBitmap,
        Table.mapping_setMapping_of_ne table mapping different]

/-- A written mapping that changes what one cookie leads to is a change of the
registry. -/
theorem registry_write (located : table.nfyFindEntry service = some entry)
    (here : ((table.setMapping (entry, index) mapping).setBitmap bitmap).registration entry cookie = registration)
    (elsewhere : forall other, other ≠ cookie ->
      ((table.setMapping (entry, index) mapping).setBitmap bitmap).registration entry other =
        table.registration entry other)
    (bits : forall id, taken bitmap id <-> id ∈ ids) :
    ((table.setMapping (entry, index) mapping).setBitmap bitmap).registry =
      table.registry.put service cookie registration ids := by
  have sameEntries := (Table.SameEntries.refl table).set (entry, index) mapping bitmap
  have services : { known | (((table.setMapping (entry, index) mapping).setBitmap bitmap).nfyFindEntry
      known).isSome = true } = table.registry.services := by
    ext known
    rw [Set.mem_ofPred_eq, sameEntries.nfyFindEntry]
    rfl
  have taken_ids : { id | taken ((table.setMapping (entry, index) mapping).setBitmap bitmap).globalBitmap id } =
      ids := by
    ext id
    exact bits id
  have registered : forall known other,
      ((((table.setMapping (entry, index) mapping).setBitmap bitmap).nfyFindEntry known).bind
        (fun found => ((table.setMapping (entry, index) mapping).setBitmap bitmap).registration found other)) =
      Function.update table.registry.registered service
        (Function.update (table.registry.registered service) cookie registration) known other := by
    intro known other
    rw [sameEntries.nfyFindEntry]
    by_cases this : known = service
    · subst this
      rw [located, Option.bind_some, Function.update_self]
      by_cases same : other = cookie
      · rw [same, Function.update_self, here]
      · rw [Function.update_of_ne same, elsewhere other same, registered_of_located located]
    · rw [Function.update_of_ne this]
      change _ = (table.nfyFindEntry known).bind (fun found => table.registration found other)
      cases found : table.nfyFindEntry known with
      | none => rw [Option.bind_none, Option.bind_none]
      | some position =>
          have different : position ≠ entry := by
            rintro rfl
            exact this ((Table.nfyFindEntry_spec found).1.symm.trans (Table.nfyFindEntry_spec located).1)
          have unchanged : forall place, ((table.setMapping (entry, index) mapping).setBitmap bitmap).mapping
              (position, place) = table.mapping (position, place) := by
            intro place
            rw [Table.mapping_setBitmap, Table.mapping_setMapping_of_ne]
            exact fun same => different (Prod.mk.inj same).1
          have lookup : ((table.setMapping (entry, index) mapping).setBitmap bitmap).nfyFindMatchingCookie
              position other = table.nfyFindMatchingCookie position other := by
            apply Table.nfyFindMatchingCookie_congr
            intro place
            rw [unchanged place]
            exact ⟨rfl, rfl⟩
          rw [Option.bind_some, Option.bind_some, Table.registration, Table.registration, lookup]
          simp only [unchanged]
  rw [Table.registry, Registry.put, services, taken_ids]
  congr 1
  funext known other
  exact registered known other

end Write

/-! ## Room -/

/-- A service has room for a registration exactly if its entry has a free
mapping. -/
theorem room_iff {table : Table} (unique : UniqueCookies table) {service : Uuid}
    {entry : Fin notifyMaxServices} (located : table.nfyFindEntry service = some entry) :
    (table.registry.cookies service).ncard < notifyMaxMappings <->
      exists index, (table.mapping (entry, index)).inUse = false := by
  have inUse := (Table.nfyFindEntry_spec located).2
  have keys : table.registry.cookies service = Set.image (fun index => (table.mapping (entry, index)).cookie)
      { index | (table.mapping (entry, index)).inUse = true } := by
    ext cookie
    change (table.registry.registered service cookie).isSome = true <-> _
    rw [registered_of_located located, Table.registration, Option.isSome_map, Table.nfyFindMatchingCookie,
      Fin.isSome_find?_iff]
    simp only [Bool.and_eq_true, beq_iff_eq]
    rfl
  have distinct : Set.InjOn (fun index => (table.mapping (entry, index)).cookie)
      { index | (table.mapping (entry, index)).inUse = true } :=
    fun first used second alsoUsed same => unique entry first second ⟨inUse, used⟩ ⟨inUse, alsoUsed⟩ same
  have counted := ncard_keys_lt_iff distinct
  rw [Fintype.card_fin, ← keys] at counted
  rw [counted]
  simp only [Bool.not_eq_true]

/-- There is room for another service exactly if there is a free entry. -/
theorem vacancy_iff {table : Table} (distinct : DistinctServices table) :
    table.registry.services.ncard < notifyMaxServices <-> table.nfyFindEmptySlot.isSome = true := by
  have keys : table.registry.services = Set.image (fun entry => (table.entries entry).serviceUuid)
      { entry | (table.entries entry).inUse = true } := by
    ext service
    change (table.nfyFindEntry service).isSome = true <-> _
    rw [Table.nfyFindEntry, Fin.isSome_find?_iff]
    simp only [Bool.and_eq_true, beq_iff_eq, and_comm]
    rfl
  have injective : Set.InjOn (fun entry => (table.entries entry).serviceUuid)
      { entry | (table.entries entry).inUse = true } :=
    fun left leftInUse right rightInUse same => distinct left right leftInUse rightInUse same
  have counted := ncard_keys_lt_iff injective
  rw [Fintype.card_fin, ← keys] at counted
  rw [counted, Table.nfyFindEmptySlot, Fin.isSome_find?_iff]
  simp only [Bool.not_eq_true, Bool.not_eq_true']

/-! ## One tuple -/

/-- A loop that completes stands for the registry that the transaction leaves,
and a refused one for a refused one. -/
inductive Refines : Except Stop Table -> Except ErrorCode Registry -> Prop
  | ok (table : Table) : Refines (.ok table) (.ok table.registry)
  | refused (code : ErrorCode) : Refines (.error (.refused code)) (.error code)

section Tuple

variable {table : Table} {service : Uuid} {entry : Fin notifyMaxServices}

theorem register_refines (faithful : Faithful table) (located : table.nfyFindEntry service = some entry)
    (srcId : U16) (tuple : NotifyTuple) :
    Refines (registerTuple table entry srcId table tuple)
      (table.registry.register service srcId tuple) := by
  have inUse := (Table.nfyFindEntry_spec located).2
  have known : (table.registry.registered service tuple.cookie).isSome =
      (table.nfyFindMatchingCookie entry tuple.cookie).isSome := by
    rw [registered_of_located located, Table.registration, Option.isSome_map]
  unfold registerTuple Registry.register
  rw [known]
  by_cases found : (table.nfyFindMatchingCookie entry tuple.cookie).isSome = true
  · rw [if_pos found, if_pos (Or.inl found)]
    exact .refused _
  rw [if_neg found]
  by_cases small : tuple.id.toNat < 64
  swap
  · have beyond : nfyBitmask tuple.id = none := if_neg small
    rw [beyond, if_pos (Or.inr (Or.inl (Nat.le_of_not_lt small)))]
    exact .refused _
  rw [nfyBitmask_of_lt small]
  dsimp only
  by_cases isTaken : tuple.id ∈ table.registry.ids
  · have set : table.globalBitmap &&& bitAt 64 tuple.id.toNat ≠ 0 := by
      intro clear
      have bit : table.globalBitmap.getLsbD tuple.id.toNat = true := isTaken
      rw [(and_bitAt_eq_zero_iff small _).mp clear] at bit
      cases bit
    rw [if_pos set, if_pos (Or.inr (Or.inr isTaken))]
    exact .refused _
  have clear : table.globalBitmap &&& bitAt 64 tuple.id.toNat = 0 :=
    (and_bitAt_eq_zero_iff small _).mpr (Bool.eq_false_of_not_eq_true isTaken)
  have acceptable : ¬ ((table.nfyFindMatchingCookie entry tuple.cookie).isSome = true ∨
      64 ≤ tuple.id.toNat ∨ tuple.id ∈ table.registry.ids) := by
    rintro (isKnown | large | alsoTaken)
    · exact found isKnown
    · exact Nat.not_lt.mpr large small
    · exact isTaken alsoTaken
  rw [if_neg (not_not.mpr clear), if_neg acceptable]
  cases search : Fin.find? (fun index => !(table.mapping (entry, index)).inUse) with
  | none =>
      have full : ¬ (table.registry.cookies service).ncard < notifyMaxMappings := by
        rw [room_iff faithful.uniqueCookies located]
        rintro ⟨index, free⟩
        have skipped := Fin.eq_false_of_find?_eq_none search index
        rw [free] at skipped
        cases skipped
      rw [if_neg full]
      exact .refused _
  | some index =>
      have free : (table.mapping (entry, index)).inUse = false := by
        simpa using Fin.eq_true_of_find?_eq_some search
      rw [if_pos ((room_iff faithful.uniqueCookies located).mpr ⟨index, free⟩)]
      have missing := Option.not_isSome_iff_eq_none.mp found
      have unknown := (Table.nfyFindMatchingCookie_eq_none inUse _).mp missing
      have unique : UniqueCookies ((table.setMapping (entry, index)
          ⟨tuple.cookie, tuple.id, tuple.ntype, srcId, true⟩).setBitmap
            (table.globalBitmap ||| bitAt 64 tuple.id.toNat)) :=
        (uniqueCookies_fill _ inUse free rfl).mpr ⟨faithful.uniqueCookies, unknown⟩
      rw [← registry_write located ?here ?elsewhere ?bits]
      · exact .ok _
      case here =>
        have exact := unique.lookupsExact entry index ((inUse_fill _ inUse rfl _).mpr (Or.inr rfl))
        simp only [Table.mapping_setBitmap, Table.mapping_setMapping_self] at exact
        rw [registration_of_found exact, Table.mapping_setBitmap, Table.mapping_setMapping_self]
      case elsewhere =>
        intro other different
        apply registration_of_lookup
        · apply Table.nfyFindMatchingCookie_eq_of_iff
          intro place
          by_cases here : place = index
          · subst here
            simp [free, different.symm]
          · rw [Table.mapping_setBitmap, Table.mapping_setMapping_of_ne]
            exact fun same => here (Prod.mk.inj same).2
        · intro found
          rw [(Table.nfyFindMatchingCookie_spec found).1] at free
          cases free
      case bits => exact taken_setBit table.globalBitmap small

theorem unregister_refines (faithful : Faithful table) (located : table.nfyFindEntry service = some entry)
    (srcId : U16) (tuple : NotifyTuple) :
    Refines (unregisterTuple table entry srcId table tuple)
      (table.registry.unregister service srcId tuple) := by
  have inUse := (Table.nfyFindEntry_spec located).2
  unfold unregisterTuple Registry.unregister
  rw [registered_of_located located]
  cases found : table.nfyFindMatchingCookie entry tuple.cookie with
  | none =>
      rw [registration_of_missing found, if_neg (Option.some_ne_none _).symm]
      exact .refused _
  | some index =>
      have spec := Table.nfyFindMatchingCookie_spec found
      rw [registration_of_found found]
      dsimp only
      by_cases sameId : (table.mapping (entry, index)).id = tuple.id
      swap
      · rw [if_pos sameId, if_neg (fun same => sameId (Registration.mk.inj (Option.some.inj same)).1)]
        exact .refused _
      by_cases sameType : (table.mapping (entry, index)).ntype = tuple.ntype
      swap
      · rw [if_neg (not_not.mpr sameId), if_pos sameType,
          if_neg (fun same => sameType (Registration.mk.inj (Option.some.inj same)).2.1)]
        exact .refused _
      by_cases sameSource : (table.mapping (entry, index)).srcId = srcId
      swap
      · rw [if_neg (not_not.mpr sameId), if_neg (not_not.mpr sameType), if_pos sameSource,
          if_neg (fun same => sameSource (Registration.mk.inj (Option.some.inj same)).2.2)]
        exact .refused _
      have small : (table.mapping (entry, index)).id.toNat < 64 := faithful.bounded (entry, index)
      rw [if_neg (not_not.mpr sameId), if_neg (not_not.mpr sameType), if_neg (not_not.mpr sameSource),
        if_pos (show (table.mapping (entry, index)).id < 64 from small), sameId, sameType, sameSource,
        if_pos rfl]
      rw [sameId] at small
      rw [← registry_write located ?here ?elsewhere ?bits]
      · exact .ok _
      case here =>
        apply registration_of_missing
        rw [Table.nfyFindMatchingCookie_eq_none (by rw [Table.entries_setBitmap, Table.inUse_setMapping, inUse])]
        rintro ⟨place, used, same⟩
        by_cases here : place = index
        · rw [Table.InUse, Table.mapping_setBitmap, here, Table.mapping_setMapping_self] at used
          cases used.2
        · have unchanged : ((table.setMapping (entry, index) NfyMapping.default).setBitmap
              (table.globalBitmap &&& ~~~ bitAt 64 tuple.id.toNat)).mapping (entry, place) =
                table.mapping (entry, place) := by
            rw [Table.mapping_setBitmap, Table.mapping_setMapping_of_ne]
            exact fun same => here (Prod.mk.inj same).2
          rw [unchanged] at same
          rw [Table.InUse, unchanged] at used
          exact here (faithful.uniqueCookies entry place index ⟨inUse, used.2⟩ ⟨inUse, spec.1⟩
            (same.trans spec.2.symm))
      case elsewhere =>
        intro other different
        apply registration_of_lookup
        · apply Table.nfyFindMatchingCookie_eq_of_iff
          intro place
          by_cases here : place = index
          · subst here
            simp [NfyMapping.default, spec.2, different.symm]
          · rw [Table.mapping_setBitmap, Table.mapping_setMapping_of_ne]
            exact fun same => here (Prod.mk.inj same).2
        · intro alsoFound
          exact different ((Table.nfyFindMatchingCookie_spec alsoFound).2.symm.trans spec.2)
      case bits =>
        intro id
        rw [← clearBit_of_lt table.globalBitmap small]
        exact taken_clearBit table.globalBitmap tuple.id id

/-- Overwriting id and type of a mapping that has been looked up. -/
theorem registry_rewrite (located : table.nfyFindEntry service = some entry) {cookie : U32}
    {index : Fin notifyMaxMappings} (found : table.nfyFindMatchingCookie entry cookie = some index) (id : U16)
    (ntype : NotifyType) {bitmap : U64} {ids : Set U16} (bits : forall id, taken bitmap id <-> id ∈ ids) :
    ((table.setMapping (entry, index) { table.mapping (entry, index) with id, ntype }).setBitmap bitmap).registry =
      table.registry.put service cookie (some ⟨id, ntype, (table.mapping (entry, index)).srcId⟩) ids := by
  have lookup : forall other, ((table.setMapping (entry, index)
      { table.mapping (entry, index) with id, ntype }).setBitmap bitmap).nfyFindMatchingCookie entry other =
        table.nfyFindMatchingCookie entry other := by
    intro other
    apply Table.nfyFindMatchingCookie_congr
    intro place
    by_cases here : place = index
    · rw [here, Table.mapping_setBitmap, Table.mapping_setMapping_self]
      exact ⟨rfl, rfl⟩
    · rw [Table.mapping_setBitmap, Table.mapping_setMapping_of_ne]
      · exact ⟨rfl, rfl⟩
      · exact fun same => here (Prod.mk.inj same).2
  apply registry_write located ?here ?elsewhere bits
  case here =>
    rw [registration_of_found ((lookup cookie).trans found), Table.mapping_setBitmap,
      Table.mapping_setMapping_self]
  case elsewhere =>
    intro other different
    apply registration_of_lookup (lookup other)
    intro alsoFound
    exact different ((Table.nfyFindMatchingCookie_spec alsoFound).2.symm.trans
      (Table.nfyFindMatchingCookie_spec found).2)

theorem assign_refines (located : table.nfyFindEntry service = some entry) (tuple : NotifyTuple) :
    Refines (assignMappings table entry [tuple]) (table.registry.assign service tuple) := by
  have single := assignMappings_singleton table entry tuple table.globalBitmap
  change assignMappings table entry [tuple] = _ at single
  rw [single]
  unfold assignCheck assignApply Registry.assign
  rw [registered_of_located located]
  cases found : table.nfyFindMatchingCookie entry tuple.cookie with
  | none =>
      rw [registration_of_missing found]
      exact .refused _
  | some index =>
      rw [registration_of_found found]
      dsimp only
      have remaining : forall id, taken (clearBit table.globalBitmap (table.mapping (entry, index)).id) id <->
          id ∈ table.registry.ids \ {(table.mapping (entry, index)).id} :=
        taken_clearBit table.globalBitmap _
      by_cases small : tuple.id.toNat < 64
      swap
      · have beyond : nfyBitmask tuple.id = none := if_neg small
        rw [beyond, if_pos (Or.inl (Nat.le_of_not_lt small))]
        exact .refused _
      rw [nfyBitmask_of_lt small]
      dsimp only
      by_cases isTaken : taken (clearBit table.globalBitmap (table.mapping (entry, index)).id) tuple.id
      · have set : clearBit table.globalBitmap (table.mapping (entry, index)).id &&&
            bitAt 64 tuple.id.toNat ≠ 0 := by
          intro clear
          rw [taken, (and_bitAt_eq_zero_iff small _).mp clear] at isTaken
          cases isTaken
        rw [if_pos set, if_pos (Or.inr ((remaining _).mp isTaken))]
        exact .refused _
      · have clear := (and_bitAt_eq_zero_iff small _).mpr (Bool.eq_false_of_not_eq_true isTaken)
        have acceptable : ¬ (64 ≤ tuple.id.toNat ∨
            tuple.id ∈ table.registry.ids \ {(table.mapping (entry, index)).id}) := by
          rintro (large | alsoTaken)
          · exact Nat.not_lt.mpr large small
          · exact isTaken ((remaining _).mpr alsoTaken)
        rw [if_neg (not_not.mpr clear), if_neg acceptable]
        rw [← registry_rewrite located found tuple.id tuple.ntype]
        · exact .ok _
        · intro id
          exact (taken_setBit _ small id).trans (or_congr_left (remaining id))

theorem unassign_refines (located : table.nfyFindEntry service = some entry) (tuple : NotifyTuple) :
    Refines (unassignMappings table entry [tuple]) (table.registry.unassign service tuple) := by
  unfold unassignMappings Registry.unassign
  rw [foldlM_singleton, foldlM_singleton, unassignCheck_eq, registered_of_located located]
  unfold unassignApply
  cases found : table.nfyFindMatchingCookie entry tuple.cookie with
  | none =>
      rw [registration_of_missing found]
      exact .refused _
  | some index =>
      rw [registration_of_found found]
      dsimp only
      have remaining : forall id, taken (clearBit table.globalBitmap (table.mapping (entry, index)).id) id <->
          id ∈ table.registry.ids \ {(table.mapping (entry, index)).id} :=
        taken_clearBit table.globalBitmap _
      rw [← registry_rewrite located found 0 .global remaining]
      exact .ok _

theorem one_refines (faithful : Faithful table) (located : table.nfyFindEntry service = some entry)
    (srcId : U16) (id : MessageID) (tuple : NotifyTuple) :
    Refines (loop entry srcId id table [tuple]) (table.registry.one service srcId id tuple) := by
  cases id with
  | setup | add =>
      change Refines ([tuple].foldlM (registerTuple table entry srcId) table) _
      rw [foldlM_singleton]
      exact register_refines faithful located srcId tuple
  | remove | destroy =>
      change Refines ([tuple].foldlM (unregisterTuple table entry srcId) table) _
      rw [foldlM_singleton]
      exact unregister_refines faithful located srcId tuple
  | assign => exact assign_refines located tuple
  | unassign => exact unassign_refines located tuple

/-! ## The tuples of a request -/

theorem loop_faithful (faithful : Faithful table) (located : table.nfyFindEntry service = some entry)
    {srcId : U16} {id : MessageID} {tuples : List NotifyTuple} {final : Table}
    (distinct : (tuples.map NotifyTuple.cookie).Nodup)
    (completed : loop entry srcId id table tuples = .ok final) : Faithful final := by
  have inUse := (Table.nfyFindEntry_spec located).2
  have services := faithful.distinctServices.of_sameEntries (loop_sameEntries located completed)
  cases id with
  | setup | add =>
      exact ⟨⟨services, (register_settles faithful.bounded entry srcId tuples).bounded _ completed,
        faithful.blank.register inUse completed⟩,
        (register_uniqueCookies inUse completed).mpr ⟨faithful.uniqueCookies, distinct⟩⟩
  | remove | destroy =>
      exact ⟨⟨services, unregister_bounded faithful.bounded completed,
        faithful.blank.unregister located completed⟩, faithful.uniqueCookies.unregistered located completed⟩
  | assign =>
      have kept := assignMappings_keeps located completed
      exact ⟨⟨services, (assignMappings_settles faithful.bounded located tuples).bounded _ completed,
        faithful.blank.of_keeps kept⟩, faithful.uniqueCookies.keeps kept⟩
  | unassign =>
      have kept := unassignMappings_keeps located completed
      exact ⟨⟨services, (unassignMappings_settles faithful.bounded located tuples).bounded _ completed,
        faithful.blank.of_keeps kept⟩, faithful.uniqueCookies.keeps kept⟩

theorem tuples_refine (faithful : Faithful table) (located : table.nfyFindEntry service = some entry)
    (srcId : U16) (id : MessageID) (tuples : List NotifyTuple) :
    Refines (tuples.foldlM (fun temp tuple => loop entry srcId id temp [tuple]) table)
      (tuples.foldlM (Registry.one service srcId id) table.registry) := by
  induction tuples generalizing table with
  | nil => exact .ok table
  | cons tuple rest inductionHypothesis =>
      have refines := one_refines faithful located srcId id tuple
      rw [List.foldlM_cons, List.foldlM_cons]
      cases looped : loop entry srcId id table [tuple] with
      | error stop =>
          rw [looped] at refines
          generalize table.registry.one service srcId id tuple = specified at refines
          cases refines with
          | refused code => exact .refused code
      | ok next =>
          rw [looped] at refines
          generalize table.registry.one service srcId id tuple = specified at refines
          cases refines with
          | ok table =>
              have same := (loop_sameEntries located looped).nfyFindEntry service
              have alone : ([tuple].map NotifyTuple.cookie).Nodup := List.nodup_singleton _
              exact inductionHypothesis (loop_faithful faithful located alone looped) (same.trans located)

end Tuple

/-! ## Requests -/

/-- The request is answered, and the table stands for the registry, as specified. -/
def Meets (outcome : Option (ErrorCode × Table)) (specified : ErrorCode × Registry) : Prop :=
  exists after, outcome = some (specified.1, after) ∧ Faithful after ∧ after.registry = specified.2

theorem Faithful.unchanged {table : Table} (faithful : Faithful table) (code : ErrorCode) :
    Meets (some (code, table)) (code, table.registry) := ⟨table, rfl, faithful, rfl⟩

/-- What a loop over tuples with distinct cookies leaves behind is what the
transaction leaves behind. -/
theorem settle_meets {table : Table} {service : Uuid} {entry : Fin notifyMaxServices} (faithful : Faithful table)
    (located : table.nfyFindEntry service = some entry) (srcId : U16) (id : MessageID) {tuples : List NotifyTuple}
    (distinct : (tuples.map NotifyTuple.cookie).Nodup) :
    Meets (settle table (loop entry srcId id table tuples))
      (Registry.conclude table.registry (tuples.foldlM (Registry.one service srcId id) table.registry)) := by
  have refines := tuples_refine faithful located srcId id tuples
  rw [← loop_eq_foldlM located srcId id distinct] at refines
  generalize tuples.foldlM (Registry.one service srcId id) table.registry = specified at refines
  cases looped : loop entry srcId id table tuples with
  | error stop =>
      rw [looped] at refines
      cases refines with
      | refused code => exact ⟨table, rfl, faithful, rfl⟩
  | ok final =>
      rw [looped] at refines
      cases refines with
      | ok final => exact ⟨final, rfl, loop_faithful faithful located distinct looped, rfl⟩

section Claim

variable {table : Table} {service : Uuid} {entry : Fin notifyMaxServices}

theorem Faithful.claimed (faithful : Faithful table) (unknown : table.nfyFindEntry service = none)
    (empty : table.nfyFindEmptySlot = some entry) : Faithful (table.claimEntry entry service) := by
  have created := Table.findOrCreateEntry_of_unknown unknown empty
  exact ⟨⟨faithful.distinctServices.claimEntry unknown entry, faithful.bounded.claimEntry entry service,
    faithful.blank.claimEntry entry service⟩, faithful.uniqueCookies.findOrCreateEntry created⟩

theorem nfyFindEntry_claim_of_ne (empty : table.nfyFindEmptySlot = some entry) {other : Uuid}
    (different : other ≠ service) :
    (table.claimEntry entry service).nfyFindEntry other = table.nfyFindEntry other := by
  unfold Table.nfyFindEntry
  congr 1
  funext index
  by_cases here : index = entry
  · rw [here, Table.claimEntry_entry, Table.nfyFindEmptySlot_spec empty]
    simp [different.symm]
  · rw [Table.claimEntry_of_ne table service here]

/-- A claimed entry has nothing registered, and the others have what they had. -/
theorem registered_claim (unknown : table.nfyFindEntry service = none)
    (empty : table.nfyFindEmptySlot = some entry)
    (known : (table.claimEntry entry service).nfyFindEntry service = some entry) (other : Uuid) (cookie : U32) :
    (table.claimEntry entry service).registry.registered other cookie =
      table.registry.registered other cookie := by
  by_cases this : other = service
  · have nothing : table.registry.registered service cookie = none := by
      change (table.nfyFindEntry service).bind _ = none
      rw [unknown, Option.bind_none]
    rw [this, nothing, registered_of_located known]
    apply registration_of_missing
    rw [Table.nfyFindMatchingCookie, Fin.find?_eq_none_iff]
    intro index
    rw [Table.mapping, Table.claimEntry_entry]
    simp [NfyMapping.default]
  · change ((table.claimEntry entry service).nfyFindEntry other).bind _ = (table.nfyFindEntry other).bind _
    rw [nfyFindEntry_claim_of_ne empty this]
    cases found : table.nfyFindEntry other with
    | none => rw [Option.bind_none, Option.bind_none]
    | some position =>
        have different : position ≠ entry := by
          rintro rfl
          have inUse := (Table.nfyFindEntry_spec found).2
          rw [Table.nfyFindEmptySlot_spec empty] at inUse
          cases inUse
        have same : (table.claimEntry entry service).entries position = table.entries position :=
          Table.claimEntry_of_ne table service different
        rw [Option.bind_some, Option.bind_some]
        unfold Table.registration Table.nfyFindMatchingCookie Table.mapping
        simp only [same]

/-- To claim an entry is to add its service. -/
theorem registry_claim (unknown : table.nfyFindEntry service = none)
    (empty : table.nfyFindEmptySlot = some entry)
    (known : (table.claimEntry entry service).nfyFindEntry service = some entry) :
    (table.claimEntry entry service).registry =
      { table.registry with services := table.registry.services ∪ {service} } := by
  have services : (table.claimEntry entry service).registry.services = table.registry.services ∪ {service} := by
    ext other
    rw [Set.mem_union, mem_services, mem_services, Set.mem_singleton_iff]
    by_cases this : other = service
    · rw [this, known]
      exact iff_of_true ⟨entry, rfl⟩ (Or.inr rfl)
    · rw [nfyFindEntry_claim_of_ne empty this, or_iff_left this]
  have registered : (table.claimEntry entry service).registry.registered = table.registry.registered := by
    funext other cookie
    exact registered_claim unknown empty known other cookie
  change _ = Registry.mk (table.registry.services ∪ {service}) table.registry.registered table.registry.ids
  rw [← services, ← registered]
  rfl

end Claim

/-- A registration works on the entry of its service, old or new. -/
theorem registerRequest_meets {table : Table} (faithful : Faithful table) {message : MsgSendDirectReq2}
    (distinct : (NotifyReq.ofMessage message).DistinctCookies) {id : MessageID} (kind : id = .setup ∨ id = .add) :
    Meets (registerRequest table (NotifyReq.ofMessage message))
      (table.registry.process (NotifyReq.ofMessage message) id) := by
  have looped : forall entry temp, loop entry (NotifyReq.ofMessage message).srcId id temp
      (NotifyReq.ofMessage message).tuples = (NotifyReq.ofMessage message).tuples.foldlM
        (registerTuple temp entry (NotifyReq.ofMessage message).srcId) temp := by
    rcases kind with rfl | rfl <;> exact fun _ _ => rfl
  have admitted : forall registry : Registry, registry.granted (NotifyReq.ofMessage message) id =
      registry.granted (NotifyReq.ofMessage message) .setup := by
    rcases kind with rfl | rfl <;> exact fun _ => rfl
  rw [Registry.process, admitted, Registry.granted]
  by_cases counted : 1 ≤ (NotifyReq.ofMessage message).count
  swap
  · have none : (NotifyReq.ofMessage message).tuples = [] := by
      rw [NotifyReq.tuples, Nat.eq_zero_of_not_pos counted, List.take_zero]
    rw [registerRequest, if_pos (fun both => counted both.1), if_pos none]
    exact faithful.unchanged _
  have within : 1 ≤ (NotifyReq.ofMessage message).count ∧
      (NotifyReq.ofMessage message).count ≤ notifyMaxTuplesPerReq := ⟨counted, Nat.min_le_right _ _⟩
  rw [if_neg (tuples_ofMessage_ne_nil counted)]
  cases known : table.nfyFindEntry (NotifyReq.ofMessage message).receiverUuid with
  | some entry =>
      rw [registerRequest_known within known, if_pos (mem_services.mpr ⟨entry, known⟩), ← looped]
      exact settle_meets faithful known _ id distinct
  | none =>
      have absent : (NotifyReq.ofMessage message).receiverUuid ∉ table.registry.services := by
        rw [mem_services, known]
        rintro ⟨_, impossible⟩
        cases impossible
      rw [if_neg absent]
      cases empty : table.nfyFindEmptySlot with
      | none =>
          have full : ¬ table.registry.services.ncard < notifyMaxServices := by
            rw [vacancy_iff faithful.distinctServices, empty]
            exact Bool.false_ne_true
          have nowhere : table.findOrCreateEntry (NotifyReq.ofMessage message).receiverUuid = none := by
            unfold Table.findOrCreateEntry
            rw [known, empty]
            rfl
          rw [if_neg full, registerRequest, if_neg (not_not.mpr within), nowhere]
          exact faithful.unchanged _
      | some entry =>
          have vacant : table.registry.services.ncard < notifyMaxServices := by
            rw [vacancy_iff faithful.distinctServices, empty]
            rfl
          have created := Table.findOrCreateEntry_of_unknown known empty
          have found := faithful.distinctServices.known_of_claimed created
          rw [if_pos vacant, registerRequest_unknown within known empty, ← looped,
            ← registry_claim known empty found]
          exact settle_meets (faithful.claimed known empty) found _ id distinct

/-- Every other request is for a service that has an entry. -/
theorem found_meets {table : Table} (faithful : Faithful table) {req : NotifyReq} (distinct : req.DistinctCookies)
    (id : MessageID) (admitted : table.registry.granted req id = table.registry.granted req .remove) :
    Meets ((table.nfyFindEntry req.receiverUuid).elim (some (.invalidParameters, table))
      (fun entry => settle table (loop entry req.srcId id table req.tuples)))
      (table.registry.process req id) := by
  rw [Registry.process, admitted, Registry.granted]
  cases known : table.nfyFindEntry req.receiverUuid with
  | some entry =>
      rw [if_pos (mem_services.mpr ⟨entry, known⟩)]
      exact settle_meets faithful known _ id distinct
  | none =>
      have absent : req.receiverUuid ∉ table.registry.services := by
        rw [mem_services, known]
        rintro ⟨_, impossible⟩
        cases impossible
      rw [if_neg absent]
      exact faithful.unchanged _

theorem process_meets {table : Table} (faithful : Faithful table) {message : MsgSendDirectReq2}
    (distinct : (NotifyReq.ofMessage message).DistinctCookies) (id : MessageID) :
    Meets (process table (NotifyReq.ofMessage message) id)
      (table.registry.process (NotifyReq.ofMessage message) id) := by
  cases id with
  | setup => exact registerRequest_meets faithful distinct (Or.inl rfl)
  | add => exact registerRequest_meets faithful distinct (Or.inr rfl)
  | remove | destroy =>
      change Meets (unregisterRequest table _) _
      rw [unregisterRequest_eq]
      exact found_meets faithful distinct .remove rfl
  | assign =>
      change Meets (assignRequest table _) _
      rw [assignRequest_eq]
      exact found_meets faithful distinct .assign rfl
  | unassign =>
      change Meets (unassignRequest table _) _
      rw [unassignRequest_eq]
      exact found_meets faithful distinct .unassign rfl

/-- A message is answered as the registry answers it. -/
theorem respond_meets {table : Table} (faithful : Faithful table) {message : MsgSendDirectReq2}
    (distinct : (NotifyReq.ofMessage message).DistinctCookies) :
    exists after, ffaMsgSendDirectReq2 table message = some ((table.registry.respond message).1, after) ∧
      Faithful after ∧ after.registry = (table.registry.respond message).2 := by
  unfold ffaMsgSendDirectReq2 Registry.respond
  cases selected : messageId (NotifyReq.ofMessage message).msgInfo with
  | none =>
      simp only [selected]
      exact ⟨table, rfl, faithful, rfl⟩
  | some id =>
      rcases process_meets faithful distinct id with ⟨after, processed, kept, same⟩
      simp only [selected, processed]
      exact ⟨after, rfl, kept, same⟩

/-! ## Runs -/

theorem Faithful.new : Faithful Table.new := ⟨WellFormed.new, UniqueCookies.new⟩

/-- Every run of the service in which no request repeats a cookie is a run of
the registry: every message is answered with the same response, and the table
stands for the registry throughout. -/
theorem table_refines_registry (messages : List MsgSendDirectReq2)
    (distinct : forall message, message ∈ messages -> (NotifyReq.ofMessage message).DistinctCookies) :
    exists table, run step Table.new messages = some table ∧
      table.registry = messages.foldl Registry.step Registry.empty ∧
      forall message, (NotifyReq.ofMessage message).DistinctCookies ->
        exists after, ffaMsgSendDirectReq2 table message = some ((table.registry.respond message).1, after) ∧
          after.registry = (table.registry.respond message).2 := by
  have reaches : forall (inputs : List MsgSendDirectReq2) (table : Table), Faithful table ->
      (forall message, message ∈ inputs -> (NotifyReq.ofMessage message).DistinctCookies) ->
      exists final, run step table inputs = some final ∧ Faithful final ∧
        final.registry = inputs.foldl Registry.step table.registry := by
    intro inputs
    induction inputs with
    | nil => exact fun table faithful _ => ⟨table, rfl, faithful, rfl⟩
    | cons message rest inductionHypothesis =>
        intro table faithful all
        rcases respond_meets faithful (all message List.mem_cons_self) with ⟨next, handled, kept, same⟩
        rcases inductionHypothesis next kept (fun other member => all other (List.mem_cons_of_mem _ member)) with
          ⟨final, reached, still, final_same⟩
        refine ⟨final, ?_, still, ?_⟩
        · rw [run_cons, step, handled]
          exact reached
        · rw [List.foldl_cons, Registry.step, ← same]
          exact final_same
  rcases reaches messages Table.new Faithful.new distinct with ⟨table, reached, faithful, same⟩
  rw [registry_new] at same
  refine ⟨table, reached, same, fun message alone => ?_⟩
  rcases respond_meets faithful alone with ⟨after, handled, _, kept⟩
  exact ⟨after, handled, kept⟩

/-- A setup of two notifications. -/
theorem pairOfTuples_refines :
    exists table, run step Table.new [pairOfTuples] = some table ∧
      table.registry = Registry.empty.step pairOfTuples := by
  have distinct : forall message, message ∈ [pairOfTuples] -> (NotifyReq.ofMessage message).DistinctCookies := by
    intro message member
    rw [List.mem_singleton.mp member]
    decide +kernel
  rcases table_refines_registry [pairOfTuples] distinct with ⟨table, reached, same, _⟩
  exact ⟨table, reached, same⟩

end Notify
end SecureServices
