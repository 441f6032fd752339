import SecureServices.Notify.Model
import SecureServices.Library.Loop

namespace SecureServices
namespace Notify

open Library Ffa

/-!
# What one iteration does to the table

The facts about the table that the proofs about the service use: reading
after a write, what a lookup returns, and one inversion lemma for each loop
body.  An inversion lemma says everything that is known when an iteration
completes, so that no later proof unfolds a loop body again.
-/

namespace Table

/-! ## Reading after a write -/

@[simp] theorem mapping_setMapping_self (table : Table) (slot : Slot) (mapping : NfyMapping) :
    (table.setMapping slot mapping).mapping slot = mapping := by
  simp [Table.mapping, setMapping]

theorem mapping_setMapping_of_ne (table : Table) {slot other : Slot} (mapping : NfyMapping)
    (different : other ≠ slot) : (table.setMapping slot mapping).mapping other = table.mapping other := by
  by_cases sameEntry : other.1 = slot.1
  · have differentIndex : other.2 ≠ slot.2 := fun same => different (Prod.ext sameEntry same)
    simp only [Table.mapping, setMapping, sameEntry, Function.update_self]
    exact Function.update_of_ne differentIndex _ _
  · simp only [Table.mapping, setMapping, Function.update_of_ne sameEntry]

/-- Every mapping of an updated table, in one equation. -/
theorem mapping_setMapping (table : Table) (slot : Slot) (mapping : NfyMapping) :
    (table.setMapping slot mapping).mapping = Function.update table.mapping slot mapping := by
  funext other
  by_cases same : other = slot
  · rw [same, mapping_setMapping_self, Function.update_self]
  · rw [mapping_setMapping_of_ne table mapping same, Function.update_of_ne same]

@[simp] theorem inUse_setMapping (table : Table) (slot : Slot) (mapping : NfyMapping)
    (entry : Fin notifyMaxServices) :
    ((table.setMapping slot mapping).entries entry).inUse = (table.entries entry).inUse := by
  by_cases same : entry = slot.1
  · simp [setMapping, same]
  · simp [setMapping, Function.update_of_ne same]

@[simp] theorem serviceUuid_setMapping (table : Table) (slot : Slot) (mapping : NfyMapping)
    (entry : Fin notifyMaxServices) :
    ((table.setMapping slot mapping).entries entry).serviceUuid = (table.entries entry).serviceUuid := by
  by_cases same : entry = slot.1
  · simp [setMapping, same]
  · simp [setMapping, Function.update_of_ne same]

@[simp] theorem globalBitmap_setMapping (table : Table) (slot : Slot) (mapping : NfyMapping) :
    (table.setMapping slot mapping).globalBitmap = table.globalBitmap := rfl

@[simp] theorem entries_setBitmap (table : Table) (bitmap : U64) :
    (table.setBitmap bitmap).entries = table.entries := rfl

@[simp] theorem mapping_setBitmap (table : Table) (bitmap : U64) :
    (table.setBitmap bitmap).mapping = table.mapping := rfl

@[simp] theorem globalBitmap_setBitmap (table : Table) (bitmap : U64) :
    (table.setBitmap bitmap).globalBitmap = bitmap := rfl

/-! ## Lookups -/

/-- The found mapping is in use and has the cookie. -/
theorem nfyFindMatchingCookie_spec {table : Table} {entry : Fin notifyMaxServices} {cookie : U32}
    {index : Fin notifyMaxMappings}
    (found : table.nfyFindMatchingCookie entry cookie = some index) :
    (table.mapping (entry, index)).inUse = true ∧ (table.mapping (entry, index)).cookie = cookie := by
  have selected := Fin.eq_true_of_find?_eq_some found
  rw [Bool.and_eq_true, beq_iff_eq] at selected
  exact selected

/-- A lookup reads only the flag and the cookie of each mapping. -/
theorem nfyFindMatchingCookie_congr {left right : Table} {entry : Fin notifyMaxServices}
    (same : forall index, (left.mapping (entry, index)).inUse = (right.mapping (entry, index)).inUse ∧
      (left.mapping (entry, index)).cookie = (right.mapping (entry, index)).cookie) (cookie : U32) :
    left.nfyFindMatchingCookie entry cookie = right.nfyFindMatchingCookie entry cookie := by
  unfold nfyFindMatchingCookie
  congr 1
  funext index
  rw [(same index).1, (same index).2]

theorem nfyFindEntry_spec {table : Table} {uuid : Uuid} {entry : Fin notifyMaxServices}
    (found : table.nfyFindEntry uuid = some entry) :
    (table.entries entry).serviceUuid = uuid ∧ (table.entries entry).inUse = true := by
  have selected := Fin.eq_true_of_find?_eq_some found
  rw [Bool.and_eq_true, beq_iff_eq] at selected
  exact selected

theorem nfyFindEmptySlot_spec {table : Table} {entry : Fin notifyMaxServices}
    (found : table.nfyFindEmptySlot = some entry) : (table.entries entry).inUse = false := by
  have selected := Fin.eq_true_of_find?_eq_some found
  simpa using selected

end Table

theorem nfyBitmask_eq_some {id : U16} {bit : U64} (masked : nfyBitmask id = some bit) :
    id.toNat < 64 ∧ bit = bitAt 64 id.toNat := by
  unfold nfyBitmask at masked
  by_cases small : id < 64
  · rw [if_pos small] at masked
    exact ⟨small, (Option.some.inj masked).symm⟩
  · rw [if_neg small] at masked
    cases masked

theorem nfyBitmask_of_lt {id : U16} (small : id.toNat < 64) :
    nfyBitmask id = some (bitAt 64 id.toNat) := if_pos small

theorem clearBit_of_lt (bitmap : U64) {id : U16} (small : id.toNat < 64) :
    clearBit bitmap id = bitmap &&& ~~~ bitAt 64 id.toNat := by
  rw [clearBit, nfyBitmask_of_lt small]

/-! ## Loop bodies -/

/-- A registered tuple has a fresh cookie, an id below 64 whose bit was
clear, and goes to a mapping that was free. -/
theorem registerTuple_eq_ok {table temp next : Table} {entry : Fin notifyMaxServices} {srcId : U16}
    {tuple : NotifyTuple} (stepped : registerTuple table entry srcId temp tuple = .ok next) :
    table.nfyFindMatchingCookie entry tuple.cookie = none ∧ tuple.id.toNat < 64 ∧
      temp.globalBitmap.getLsbD tuple.id.toNat = false ∧
      exists index, (temp.mapping (entry, index)).inUse = false ∧
        next = (temp.setMapping (entry, index)
          ⟨tuple.cookie, tuple.id, tuple.ntype, srcId, true⟩).setBitmap
            (temp.globalBitmap ||| bitAt 64 tuple.id.toNat) := by
  unfold registerTuple at stepped
  by_cases clash : (table.nfyFindMatchingCookie entry tuple.cookie).isSome
  · rw [if_pos clash] at stepped
    cases stepped
  rw [if_neg clash] at stepped
  cases masked : nfyBitmask tuple.id with
  | none =>
      rw [masked] at stepped
      cases stepped
  | some bit =>
      rcases nfyBitmask_eq_some masked with ⟨small, rfl⟩
      simp only [masked] at stepped
      by_cases taken : temp.globalBitmap &&& bitAt 64 tuple.id.toNat ≠ 0
      · rw [if_pos taken] at stepped
        cases stepped
      rw [if_neg taken] at stepped
      cases search : Fin.find? (fun index => !(temp.mapping (entry, index)).inUse) with
      | none =>
          rw [search] at stepped
          cases stepped
      | some index =>
          rw [search] at stepped
          cases stepped
          have free := Fin.eq_true_of_find?_eq_some search
          exact ⟨Option.not_isSome_iff_eq_none.mp clash, small,
            (and_bitAt_eq_zero_iff small _).mp (not_not.mp taken), index, by simpa using free, rfl⟩

/-- An unregistered tuple names a mapping by its cookie and agrees with the
copy on id, type and source. -/
theorem unregisterTuple_eq_ok {table temp next : Table} {entry : Fin notifyMaxServices} {srcId : U16}
    {tuple : NotifyTuple} (stepped : unregisterTuple table entry srcId temp tuple = .ok next) :
    exists index, table.nfyFindMatchingCookie entry tuple.cookie = some index ∧
      (temp.mapping (entry, index)).id = tuple.id ∧
      (temp.mapping (entry, index)).ntype = tuple.ntype ∧
      (temp.mapping (entry, index)).srcId = srcId ∧ tuple.id.toNat < 64 ∧
      next = (temp.setMapping (entry, index) NfyMapping.default).setBitmap
        (temp.globalBitmap &&& ~~~ bitAt 64 tuple.id.toNat) := by
  unfold unregisterTuple at stepped
  cases search : table.nfyFindMatchingCookie entry tuple.cookie with
  | none =>
      rw [search] at stepped
      cases stepped
  | some index =>
      simp only [search] at stepped
      by_cases sameId : (temp.mapping (entry, index)).id = tuple.id
      · by_cases sameType : (temp.mapping (entry, index)).ntype = tuple.ntype
        · by_cases sameSource : (temp.mapping (entry, index)).srcId = srcId
          · by_cases small : (temp.mapping (entry, index)).id < 64
            · simp only [sameType, sameSource, ne_eq, not_true_eq_false, if_false, sameId] at stepped
              rw [if_pos (sameId ▸ small)] at stepped
              cases stepped
              exact ⟨index, rfl, sameId, sameType, sameSource, sameId ▸ small, rfl⟩
            · simp only [sameId, sameType, sameSource, ne_eq, not_true_eq_false, if_false] at stepped
              rw [if_neg (sameId ▸ small)] at stepped
              cases stepped
          · simp [sameId, sameType, sameSource] at stepped
        · simp [sameId, sameType] at stepped
      · simp [sameId] at stepped

/-- A tuple passes the validation of an assignment when its cookie is found
and its id is free once the bit of the mapping's present id is cleared. -/
theorem assignCheck_eq_ok {table : Table} {entry : Fin notifyMaxServices} {simBitmap next : U64}
    {tuple : NotifyTuple} (stepped : assignCheck table entry simBitmap tuple = .ok next) :
    exists index, table.nfyFindMatchingCookie entry tuple.cookie = some index ∧
      tuple.id.toNat < 64 ∧
      (clearBit simBitmap (table.mapping (entry, index)).id).getLsbD tuple.id.toNat = false ∧
      next = clearBit simBitmap (table.mapping (entry, index)).id ||| bitAt 64 tuple.id.toNat := by
  unfold assignCheck at stepped
  cases search : table.nfyFindMatchingCookie entry tuple.cookie with
  | none =>
      rw [search] at stepped
      cases stepped
  | some index =>
      cases masked : nfyBitmask tuple.id with
      | none => simp [search, masked] at stepped
      | some bit =>
          rcases nfyBitmask_eq_some masked with ⟨small, rfl⟩
          simp only [search, masked] at stepped
          by_cases taken : clearBit simBitmap (table.mapping (entry, index)).id &&&
              bitAt 64 tuple.id.toNat ≠ 0
          · rw [if_pos taken] at stepped
            cases stepped
          · rw [if_neg taken] at stepped
            cases stepped
            exact ⟨index, rfl, small, (and_bitAt_eq_zero_iff small _).mp (not_not.mp taken), rfl⟩

theorem assignApply_eq_ok {temp next : Table} {entry : Fin notifyMaxServices} {tuple : NotifyTuple}
    (stepped : assignApply entry temp tuple = .ok next) :
    exists index, temp.nfyFindMatchingCookie entry tuple.cookie = some index ∧
      next = temp.setMapping (entry, index)
        { temp.mapping (entry, index) with id := tuple.id, ntype := tuple.ntype } := by
  unfold assignApply at stepped
  cases search : temp.nfyFindMatchingCookie entry tuple.cookie with
  | none =>
      rw [search] at stepped
      cases stepped
  | some index =>
      rw [search] at stepped
      cases stepped
      exact ⟨index, rfl, rfl⟩

theorem unassignApply_eq_ok {temp next : Table} {entry : Fin notifyMaxServices} {tuple : NotifyTuple}
    (stepped : unassignApply entry temp tuple = .ok next) :
    exists index, temp.nfyFindMatchingCookie entry tuple.cookie = some index ∧
      next = (temp.setMapping (entry, index)
        { temp.mapping (entry, index) with id := 0, ntype := .global }).setBitmap
        (clearBit temp.globalBitmap (temp.mapping (entry, index)).id) := by
  unfold unassignApply at stepped
  cases search : temp.nfyFindMatchingCookie entry tuple.cookie with
  | none =>
      rw [search] at stepped
      cases stepped
  | some index =>
      rw [search] at stepped
      cases stepped
      exact ⟨index, rfl, rfl⟩

/-! ## Loop bodies that stop -/

/-- A registration stops at a tuple that is wrong, or for want of a mapping. -/
theorem registerTuple_eq_error {table temp : Table} {entry : Fin notifyMaxServices} {srcId : U16}
    {tuple : NotifyTuple} {reason : Stop}
    (stopped : registerTuple table entry srcId temp tuple = .error reason) :
    reason = .refused .invalidParameters ∨
      (reason = .refused .noMemory ∧ forall index, (temp.mapping (entry, index)).inUse = true) := by
  unfold registerTuple at stopped
  split at stopped
  · cases stopped
    exact Or.inl rfl
  · split at stopped
    · cases stopped
      exact Or.inl rfl
    · split at stopped
      · cases stopped
        exact Or.inl rfl
      · split at stopped
        · rename_i exhausted
          cases stopped
          refine Or.inr ⟨rfl, fun index => ?_⟩
          simpa using Fin.eq_false_of_find?_eq_none exhausted index
        · cases stopped

/-- A removal stops at a tuple that is wrong, or at a mapping whose id has no
bit. -/
theorem unregisterTuple_eq_error {table temp : Table} {entry : Fin notifyMaxServices} {srcId : U16}
    {tuple : NotifyTuple} {reason : Stop}
    (stopped : unregisterTuple table entry srcId temp tuple = .error reason) :
    reason = .refused .invalidParameters ∨
      (reason = .panicked ∧ exists index, 64 ≤ (temp.mapping (entry, index)).id.toNat) := by
  unfold unregisterTuple at stopped
  split at stopped
  · cases stopped
    exact Or.inl rfl
  · rename_i index _
    dsimp only at stopped
    split at stopped
    · cases stopped
      exact Or.inl rfl
    · split at stopped
      · cases stopped
        exact Or.inl rfl
      · split at stopped
        · cases stopped
          exact Or.inl rfl
        · split at stopped
          · cases stopped
          · rename_i large
            cases stopped
            exact Or.inr ⟨rfl, index, Nat.le_of_not_lt large⟩

theorem assignCheck_eq_error {table : Table} {entry : Fin notifyMaxServices} {simBitmap : U64}
    {tuple : NotifyTuple} {reason : Stop}
    (stopped : assignCheck table entry simBitmap tuple = .error reason) :
    reason = .refused .invalidParameters := by
  unfold assignCheck at stopped
  split at stopped
  · cases stopped
    rfl
  · dsimp only at stopped
    split at stopped
    · cases stopped
      rfl
    · split at stopped
      · cases stopped
        rfl
      · cases stopped

/-- The second passes stop only where a cookie is not found. -/
theorem assignApply_eq_error {temp : Table} {entry : Fin notifyMaxServices} {tuple : NotifyTuple}
    {reason : Stop} (stopped : assignApply entry temp tuple = .error reason) :
    reason = .panicked ∧ temp.nfyFindMatchingCookie entry tuple.cookie = none := by
  unfold assignApply at stopped
  split at stopped
  · rename_i missing
    cases stopped
    exact ⟨rfl, missing⟩
  · cases stopped

theorem unassignApply_eq_error {temp : Table} {entry : Fin notifyMaxServices} {tuple : NotifyTuple}
    {reason : Stop} (stopped : unassignApply entry temp tuple = .error reason) :
    reason = .panicked ∧ temp.nfyFindMatchingCookie entry tuple.cookie = none := by
  unfold unassignApply at stopped
  split at stopped
  · rename_i missing
    cases stopped
    exact ⟨rfl, missing⟩
  · cases stopped

/-- The validation of a removal of ids asks for the cookie only. -/
theorem unassignCheck_eq (table : Table) (entry : Fin notifyMaxServices) (tuple : NotifyTuple) :
    unassignCheck table entry () tuple =
      match table.nfyFindMatchingCookie entry tuple.cookie with
      | none => .error (.refused .invalidParameters)
      | some _ => .ok () := by
  unfold unassignCheck
  cases table.nfyFindMatchingCookie entry tuple.cookie <;> rfl

/-! ## Requests -/

/-- A completed assignment is its two loops, both completed. -/
theorem assignMappings_eq_ok {table final : Table} {entry : Fin notifyMaxServices}
    {tuples : List NotifyTuple} (completed : assignMappings table entry tuples = .ok final) :
    exists simBitmap applied,
      tuples.foldlM (assignCheck table entry) table.globalBitmap = .ok simBitmap ∧
      tuples.foldlM (assignApply entry) table = .ok applied ∧
      final = applied.setBitmap simBitmap := by
  unfold assignMappings at completed
  cases checked : tuples.foldlM (assignCheck table entry) table.globalBitmap with
  | error reason =>
      rw [checked] at completed
      cases completed
  | ok simBitmap =>
      rw [checked] at completed
      cases applied : tuples.foldlM (assignApply entry) table with
      | error reason =>
          rw [applied] at completed
          cases completed
      | ok updated =>
          rw [applied] at completed
          cases completed
          exact ⟨simBitmap, updated, rfl, rfl, rfl⟩

theorem unassignMappings_eq_ok {table final : Table} {entry : Fin notifyMaxServices}
    {tuples : List NotifyTuple} (completed : unassignMappings table entry tuples = .ok final) :
    tuples.foldlM (unassignApply entry) table = .ok final := by
  unfold unassignMappings at completed
  cases checked : tuples.foldlM (unassignCheck table entry) () with
  | error reason =>
      rw [checked] at completed
      cases completed
  | ok found =>
      rw [checked] at completed
      exact completed

end Notify
end SecureServices
