import SecureServices.Notify.Loops
import SecureServices.Library.Run
import Mathlib.Data.Fintype.Card

namespace SecureServices
namespace Notify

open Library Ffa

/-!
# Refused requests

A request that is answered with an error should leave the whole service as it
was.  The loops see to that, by working on a copy or by validating first.  The
lookup before the loop of a registration does not: for an unknown receiver it
claims an entry, which stays claimed when the tuples are refused afterwards.

Whether the tuples will be refused can be told from the bitmap and the
request, because the claimed entry is blank.  The condition is therefore a
property of the table before the request, and it is exact.
-/

/-- A request that is not answered with success changes nothing. -/
def Atomic (table : Table) (message : MsgSendDirectReq2) : Prop :=
  forall result after, ffaMsgSendDirectReq2 table message = some (result, after) ->
    granted result = false -> after = table

/-- The tuples can be registered in a blank entry. -/
def Registrable (bitmap : U64) (tuples : List NotifyTuple) : Prop :=
  (forall tuple, tuple ∈ tuples -> tuple.id.toNat < 64 ∧ ¬ taken bitmap tuple.id) ∧
    (tuples.map NotifyTuple.id).Nodup

instance (bitmap : U64) (tuples : List NotifyTuple) : Decidable (Registrable bitmap tuples) :=
  inferInstanceAs (Decidable (_ ∧ _))

/-- A registration for an unknown receiver, with an entry left for it, whose
tuples cannot be registered. -/
def Leaks (table : Table) (message : MsgSendDirectReq2) : Prop :=
  let req := NotifyReq.ofMessage message
  (messageId req.msgInfo = some .setup ∨ messageId req.msgInfo = some .add) ∧ 1 ≤ req.count ∧
    table.nfyFindEntry req.receiverUuid = none ∧ table.nfyFindEmptySlot.isSome = true ∧
    ¬ Registrable table.globalBitmap req.tuples

instance (table : Table) (message : MsgSendDirectReq2) : Decidable (Leaks table message) :=
  inferInstanceAs (Decidable (_ ∧ _))

/-! ## Registration in a blank entry -/

/-- The bits after a registration are those before it and those of its tuples. -/
theorem register_taken {table final : Table} {entry : Fin notifyMaxServices} {srcId : U16}
    {tuples : List NotifyTuple}
    (completed : tuples.foldlM (registerTuple table entry srcId) table = .ok final) (id : U16) :
    taken final.globalBitmap id <->
      taken table.globalBitmap id ∨ id ∈ tuples.map NotifyTuple.id := by
  refine foldlM_invariant
    (fun done temp => taken temp.globalBitmap id <->
      taken table.globalBitmap id ∨ id ∈ done.map NotifyTuple.id) (by simp) ?_ completed
  intro done tuple rest temp next _split _reached same stepped
  rcases registerTuple_eq_ok stepped with ⟨_fresh, small, _clear, index, _free, rfl⟩
  rw [Table.globalBitmap_setBitmap, taken_setBit _ small, same, List.map_append, List.mem_append,
    or_assoc]
  simp

/-- What a completed registration says about its tuples. -/
theorem registrable_of_completed {table final : Table} {entry : Fin notifyMaxServices} {srcId : U16}
    {tuples : List NotifyTuple}
    (completed : tuples.foldlM (registerTuple table entry srcId) table = .ok final) :
    Registrable table.globalBitmap tuples := by
  refine foldlM_invariant (fun done _temp => Registrable table.globalBitmap done)
    ⟨by simp, List.nodup_nil⟩ ?_ completed
  intro done tuple rest temp next _split reached good stepped
  rcases registerTuple_eq_ok stepped with ⟨_fresh, small, clear, _⟩
  have unused : ¬ taken temp.globalBitmap tuple.id := by
    rw [taken, clear]
    exact Bool.false_ne_true
  rw [register_taken reached, not_or] at unused
  constructor
  · intro other member
    rcases List.mem_append.mp member with earlier | last
    · exact good.1 other earlier
    · rw [List.mem_singleton.mp last]
      exact ⟨small, unused.1⟩
  · rw [List.map_append, List.nodup_append]
    refine ⟨good.2, List.nodup_singleton _, fun first earlier second last same => ?_⟩
    rw [List.map_singleton, List.mem_singleton] at last
    rw [same, last] at earlier
    exact unused.2 earlier

/-- How many mappings of an entry are in use. -/
def Table.used (table : Table) (entry : Fin notifyMaxServices) : Nat :=
  (Finset.univ.filter (fun index => (table.mapping (entry, index)).inUse = true)).card

/-- Filling a free mapping takes exactly one more into use. -/
theorem Table.used_fill {table : Table} {entry : Fin notifyMaxServices} {index : Fin notifyMaxMappings}
    {mapping : NfyMapping} (bitmap : U64) (free : (table.mapping (entry, index)).inUse = false)
    (filled : mapping.inUse = true) :
    ((table.setMapping (entry, index) mapping).setBitmap bitmap).used entry = table.used entry + 1 := by
  have absent : index ∉ Finset.univ.filter
      (fun other => (table.mapping (entry, other)).inUse = true) := by
    rw [Finset.mem_filter, free]
    simp
  rw [used, used, ← Finset.card_insert_of_notMem absent]
  congr 1
  ext other
  rw [Finset.mem_insert, Finset.mem_filter, Finset.mem_filter, mapping_setBitmap]
  by_cases same : other = index
  · rw [same, mapping_setMapping_self, filled]
    simp
  · have different : (entry, other) ≠ (entry, index) := fun equal => same (Prod.mk.inj equal).2
    rw [mapping_setMapping_of_ne table mapping different, or_iff_right same]

theorem Table.exists_free {table : Table} {entry : Fin notifyMaxServices}
    (room : table.used entry < notifyMaxMappings) :
    exists index, (table.mapping (entry, index)).inUse = false := by
  by_contra full
  have all : Finset.univ.filter (fun index => (table.mapping (entry, index)).inUse = true) =
      Finset.univ :=
    Finset.filter_true_of_mem (fun index _ =>
      Bool.of_not_eq_false (fun free => full ⟨index, free⟩))
  rw [used, all, Finset.card_univ, Fintype.card_fin] at room
  exact Nat.lt_irrefl _ room

/-- A registration takes one mapping into use for each tuple. -/
theorem register_used {table final : Table} {entry : Fin notifyMaxServices} {srcId : U16}
    {tuples : List NotifyTuple}
    (completed : tuples.foldlM (registerTuple table entry srcId) table = .ok final) :
    final.used entry = table.used entry + tuples.length := by
  refine foldlM_invariant
    (fun done (temp : Table) => temp.used entry = table.used entry + done.length) rfl ?_ completed
  intro done tuple rest temp next _split _reached used stepped
  rcases registerTuple_eq_ok stepped with ⟨_, _, _, index, free, rfl⟩
  rw [Table.used_fill _ free rfl, used, List.length_append, List.length_singleton, Nat.add_assoc]

/-- An iteration completes when none of its four checks fails. -/
theorem registerTuple_completes {table temp : Table} {entry : Fin notifyMaxServices} {tuple : NotifyTuple}
    (srcId : U16) (fresh : table.nfyFindMatchingCookie entry tuple.cookie = none)
    (small : tuple.id.toNat < 64) (clear : ¬ taken temp.globalBitmap tuple.id)
    (free : exists index, (temp.mapping (entry, index)).inUse = false) :
    exists next, registerTuple table entry srcId temp tuple = .ok next := by
  rcases free with ⟨index, idle⟩
  have search : (Fin.find? (fun index => !(temp.mapping (entry, index)).inUse)).isSome = true :=
    Fin.isSome_find?_of_eq_true (i := index) (by rw [idle]; rfl)
  rcases Option.isSome_iff_exists.mp search with ⟨first, found⟩
  have unset : temp.globalBitmap &&& bitAt 64 tuple.id.toNat = 0 :=
    (and_bitAt_eq_zero_iff small _).mpr (Bool.eq_false_of_not_eq_true clear)
  simp only [registerTuple, fresh, Option.isSome_none, Bool.false_eq_true, if_false,
    nfyBitmask_of_lt small, unset, ne_eq, not_true_eq_false, found, Except.ok.injEq, exists_eq']

/-- Tuples that pass the test are registered, as long as there is room and none
of their cookies is in the way. -/
theorem register_completes {table : Table} {entry : Fin notifyMaxServices} {tuples : List NotifyTuple}
    (srcId : U16) (good : Registrable table.globalBitmap tuples)
    (fresh : forall tuple, tuple ∈ tuples -> table.nfyFindMatchingCookie entry tuple.cookie = none)
    (room : table.used entry + tuples.length ≤ notifyMaxMappings) :
    exists final, tuples.foldlM (registerTuple table entry srcId) table = .ok final := by
  refine Exists.imp (fun _ => And.left) (foldlM_completes (fun _ _ => True) trivial ?_)
  intro done tuple rest temp split reached _
  have member := List.mem_iff_append.mpr ⟨done, rest, split⟩
  have clear : ¬ taken temp.globalBitmap tuple.id := by
    rw [register_taken reached, not_or]
    refine ⟨(good.1 tuple member).2, fun earlier => ?_⟩
    have distinct := good.2
    rw [split, List.map_append, List.nodup_append] at distinct
    exact distinct.2.2 _ earlier _ (List.mem_map_of_mem List.mem_cons_self) rfl
  have remaining : temp.used entry < notifyMaxMappings := by
    have used := register_used reached
    rw [split, List.length_append, List.length_cons] at room
    omega
  obtain ⟨next, stepped⟩ := registerTuple_completes srcId (fresh tuple member)
    (good.1 tuple member).1 clear (Table.exists_free remaining)
  exact ⟨next, stepped, trivial⟩

/-- A claimed entry has no mapping in use. -/
theorem claimEntry_blank (table : Table) (entry : Fin notifyMaxServices) (uuid : Uuid)
    (index : Fin notifyMaxMappings) :
    (table.claimEntry entry uuid).mapping (entry, index) = NfyMapping.default := by
  rw [Table.mapping, Table.claimEntry_entry]

theorem used_claimEntry (table : Table) (entry : Fin notifyMaxServices) (uuid : Uuid) :
    (table.claimEntry entry uuid).used entry = 0 := by
  rw [Table.used, Finset.card_eq_zero, Finset.filter_eq_empty_iff]
  intro index _
  rw [claimEntry_blank]
  exact Bool.false_ne_true

/-- Registering in a claimed entry succeeds exactly when the tuples pass the
test, which is stated for the table before the claim. -/
theorem register_claimed_iff {table : Table} {entry : Fin notifyMaxServices} {uuid : Uuid}
    {tuples : List NotifyTuple} (srcId : U16) (short : tuples.length ≤ notifyMaxTuplesPerReq) :
    (exists final, tuples.foldlM (registerTuple (table.claimEntry entry uuid) entry srcId)
      (table.claimEntry entry uuid) = .ok final) <-> Registrable table.globalBitmap tuples := by
  refine ⟨fun ⟨final, completed⟩ => ?_, fun good => ?_⟩
  · have passed := registrable_of_completed completed
    exact passed
  have fresh : forall cookie, (table.claimEntry entry uuid).nfyFindMatchingCookie entry cookie = none := by
    intro cookie
    rw [Table.nfyFindMatchingCookie, Fin.find?_eq_none_iff]
    intro index
    rw [claimEntry_blank]
    rfl
  refine register_completes srcId good (fun tuple _ => fresh tuple.cookie) ?_
  rw [used_claimEntry, Nat.zero_add]
  exact short.trans (by decide)

/-! ## Exactly the leaking requests are not atomic -/

theorem length_tuples_ofMessage (message : MsgSendDirectReq2) :
    (NotifyReq.ofMessage message).tuples.length ≤ notifyMaxTuplesPerReq := by
  rw [NotifyReq.tuples, List.length_take]
  exact (Nat.min_le_right _ _).trans (by simp [NotifyReq.ofMessage])

/-- A registration that stops is refused; its body cannot panic. -/
theorem register_error {table temp : Table} {entry : Fin notifyMaxServices} {srcId : U16}
    {tuples : List NotifyTuple} {reason : Stop}
    (stopped : tuples.foldlM (registerTuple table entry srcId) temp = .error reason) :
    exists code, reason = .refused code ∧ code ≠ .ok := by
  rcases exists_of_foldlM_error stopped with ⟨_, tuple, _, acc, _, _, stopped⟩
  rcases registerTuple_eq_error stopped with rfl | ⟨rfl, _⟩
  · exact ⟨.invalidParameters, rfl, by decide⟩
  · exact ⟨.noMemory, rfl, by decide⟩

/-- A counted registration for an unknown receiver is a loop over the table
in which its entry has been claimed. -/
theorem registerRequest_unknown {table : Table} {req : NotifyReq} {entry : Fin notifyMaxServices}
    (counted : 1 ≤ req.count ∧ req.count ≤ notifyMaxTuplesPerReq)
    (unknown : table.nfyFindEntry req.receiverUuid = none)
    (empty : table.nfyFindEmptySlot = some entry) :
    registerRequest table req = settle (table.claimEntry entry req.receiverUuid)
      (req.tuples.foldlM (registerTuple (table.claimEntry entry req.receiverUuid) entry req.srcId)
        (table.claimEntry entry req.receiverUuid)) := by
  rw [registerRequest, if_neg (not_not.mpr counted),
    Table.findOrCreateEntry_of_unknown unknown empty]
  rfl

/-- A leaking request is refused and leaves the entry that it claimed. -/
theorem registerRequest_of_leaks {table : Table} {message : MsgSendDirectReq2}
    (leaks : Leaks table message) :
    exists entry code, table.nfyFindEmptySlot = some entry ∧ code ≠ ErrorCode.ok ∧
      registerRequest table (NotifyReq.ofMessage message) =
        some (code, table.claimEntry entry (NotifyReq.ofMessage message).receiverUuid) := by
  rcases leaks with ⟨_kind, counted, unknown, room, unregistrable⟩
  rcases Option.isSome_iff_exists.mp room with ⟨entry, empty⟩
  rw [registerRequest_unknown ⟨counted, Nat.min_le_right _ _⟩ unknown empty]
  cases loop : (NotifyReq.ofMessage message).tuples.foldlM
      (registerTuple (table.claimEntry entry (NotifyReq.ofMessage message).receiverUuid) entry
        (NotifyReq.ofMessage message).srcId)
      (table.claimEntry entry (NotifyReq.ofMessage message).receiverUuid) with
  | ok final =>
      exact absurd ((register_claimed_iff _ (length_tuples_ofMessage message)).mp ⟨final, loop⟩)
        unregistrable
  | error reason =>
      rcases register_error loop with ⟨code, rfl, failed⟩
      exact ⟨entry, code, empty, failed, rfl⟩

theorem not_atomic_of_leaks {table : Table} {message : MsgSendDirectReq2}
    (leaks : Leaks table message) : ¬ Atomic table message := by
  intro atomic
  rcases registerRequest_of_leaks leaks with ⟨entry, code, empty, failed, refused⟩
  obtain ⟨id, selected, processed⟩ : exists id,
      messageId (NotifyReq.ofMessage message).msgInfo = some id ∧
      process table (NotifyReq.ofMessage message) id =
        some (code, table.claimEntry entry (NotifyReq.ofMessage message).receiverUuid) := by
    rcases leaks.1 with selected | selected
    · exact ⟨.setup, selected, refused⟩
    · exact ⟨.add, selected, refused⟩
  have handled : ffaMsgSendDirectReq2 table message = some
      (.ok (.fromReqWithPayload message
        (NfySetupRsp.respond id (NotifyReq.ofMessage message) code).intoPayload),
      table.claimEntry entry (NotifyReq.ofMessage message).receiverUuid) := by
    simp only [ffaMsgSendDirectReq2, selected, processed, Option.map_some]
  have same := atomic _ _ handled (by rw [granted_respond, decide_eq_false failed])
  have free := Table.nfyFindEmptySlot_spec empty
  rw [← same, Table.claimEntry_entry] at free
  cases free

/-- An outcome that leaves a claimed entry behind is that of a leaking request. -/
theorem leaks_of_stopped {table : Table} {message : MsgSendDirectReq2} {id : MessageID}
    {entry : Fin notifyMaxServices} {reason : Stop}
    (selected : messageId (NotifyReq.ofMessage message).msgInfo = some id)
    (kind : id = .setup ∨ id = .add) (counted : 1 ≤ (NotifyReq.ofMessage message).count)
    (unknown : table.nfyFindEntry (NotifyReq.ofMessage message).receiverUuid = none)
    (empty : table.nfyFindEmptySlot = some entry)
    (stopped : (NotifyReq.ofMessage message).tuples.foldlM
      (registerTuple (table.claimEntry entry (NotifyReq.ofMessage message).receiverUuid) entry
        (NotifyReq.ofMessage message).srcId)
      (table.claimEntry entry (NotifyReq.ofMessage message).receiverUuid) = .error reason) :
    Leaks table message := by
  refine ⟨?_, counted, unknown, ?_, fun good => ?_⟩
  · rw [selected]
    exact kind.imp (congrArg some) (congrArg some)
  · rw [empty]
    rfl
  · rcases (register_claimed_iff _ (length_tuples_ofMessage message)).mpr good with ⟨final, completed⟩
    rw [stopped] at completed
    cases completed

theorem atomic_of_not_leaks {table : Table} {message : MsgSendDirectReq2}
    (safe : ¬ Leaks table message) : Atomic table message := by
  intro result after handled refused
  rcases ffaMsgSendDirectReq2_cases handled with ⟨_, same, _⟩ | ⟨id, status, selected, processed, rfl⟩
  · exact same
  · have failed : status ≠ .ok := by
      rw [granted_respond] at refused
      exact of_decide_eq_false refused
    cases process_outcome processed with
    | registered => exact absurd rfl failed
    | unregistered => exact absurd rfl failed
    | assigned => exact absurd rfl failed
    | unassigned => exact absurd rfl failed
    | unchanged => rfl
    | leaked kind counted unknown empty stopped _ =>
        exact absurd (leaks_of_stopped selected kind counted.1 unknown empty stopped) safe

/-- Every refused request is atomic, except for those that leak an entry. -/
theorem atomic_iff_not_leaks (table : Table) (message : MsgSendDirectReq2) :
    Atomic table message <-> ¬ Leaks table message :=
  ⟨fun atomic leaks => not_atomic_of_leaks leaks atomic, atomic_of_not_leaks⟩

/-- A setup whose only id has no bit is refused, and uses up an entry. -/
theorem not_always_atomic :
    ¬ forall messages table message, run step Table.new messages = some table ->
      Atomic table message := by
  intro always
  have leaks : Leaks Table.new (compose 1 7 .setup [⟨1, 64, .global⟩] (by decide)) := by
    decide +kernel
  exact not_atomic_of_leaks leaks (always [] Table.new _ rfl)

end Notify
end SecureServices
