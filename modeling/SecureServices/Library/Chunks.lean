import Mathlib.Algebra.Order.Floor.Div
import Mathlib.Data.List.Basic

namespace SecureServices
namespace Library

/-!
# Cutting a list into chunks

Every chunk has the given size, except that the last one may be shorter.  There
are as many as the size goes into the length, rounded up, and together they are
the list.  Statements about all of them follow the first chunk and the rest.
-/

variable {T : Type*}

/-- The chunks of a list, in order. -/
def chunks (size : Nat) (items : List T) : List (List T) :=
  (List.range (items.length ⌈/⌉ size)).map (fun index => (items.drop (size * index)).take size)

theorem length_chunks (size : Nat) (items : List T) :
    (chunks size items).length = items.length ⌈/⌉ size := by
  rw [chunks, List.length_map, List.length_range]

theorem chunks_nil (size : Nat) : chunks size ([] : List T) = [] := by
  have none : (0 : Nat) ⌈/⌉ size = 0 := zero_ceilDiv size
  rw [chunks, List.length_nil, none, List.range_zero, List.map_nil]

/-- The first chunk, and the chunks of the rest. -/
theorem chunks_of_ne_nil {size : Nat} (positive : 0 < size) {items : List T} (nonempty : items ≠ []) :
    chunks size items = items.take size :: chunks size (items.drop size) := by
  have some : 0 < items.length := List.length_pos_iff.mpr nonempty
  have count : items.length ⌈/⌉ size = (items.drop size).length ⌈/⌉ size + 1 := by
    rw [List.length_drop, Nat.ceilDiv_eq_add_pred_div, Nat.ceilDiv_eq_add_pred_div]
    by_cases whole : size ≤ items.length
    · have split : items.length + size - 1 = items.length - size + size - 1 + size := by omega
      rw [split, Nat.add_div_right _ positive]
    · have first : items.length + size - 1 = items.length - 1 + size := by omega
      rw [first, Nat.add_div_right _ positive, Nat.sub_eq_zero_of_le (Nat.le_of_not_le whole),
        Nat.div_eq_of_lt (by omega), Nat.div_eq_of_lt (by omega)]
  rw [chunks, count, List.range_succ_eq_map, List.map_cons, List.map_map, chunks, Nat.mul_zero,
    List.drop_zero]
  congr 1
  apply List.map_congr_left
  intro index _member
  rw [Function.comp_apply, List.drop_drop, Nat.mul_succ, Nat.add_comm]

/-- The chunks follow the list: it is empty, or a first chunk is cut off. -/
theorem chunks_induction {size : Nat} (positive : 0 < size) {motive : List T -> Prop}
    (empty : motive [])
    (cut : forall items, items ≠ [] -> motive (items.drop size) -> motive items) (items : List T) :
    motive items := by
  induction length : items.length using Nat.strong_induction_on generalizing items with
  | _ count inductionHypothesis =>
      by_cases none : items = []
      · rw [none]
        exact empty
      · have some : 0 < items.length := List.length_pos_iff.mpr none
        refine cut items none (inductionHypothesis (items.length - size) (by omega) _ ?_)
        exact List.length_drop

/-- No item is lost, and none is repeated. -/
theorem flatten_chunks {size : Nat} (positive : 0 < size) (items : List T) :
    (chunks size items).flatten = items := by
  induction items using chunks_induction positive with
  | empty => rw [chunks_nil, List.flatten_nil]
  | cut items nonempty inductionHypothesis =>
      rw [chunks_of_ne_nil positive nonempty, List.flatten_cons, inductionHypothesis,
        List.take_append_drop]

/-- Filling a list up to a length with a default item. -/
theorem map_getD_range {items : List T} {count : Nat} (default : T) (fits : items.length ≤ count) :
    (List.range count).map (fun index => items.getD index default) =
      items ++ List.replicate (count - items.length) default := by
  apply List.ext_getElem
  · simp only [List.length_map, List.length_range, List.length_append, List.length_replicate]
    omega
  · intro index inside other
    rw [List.getElem_map, List.getElem_range, List.getD_eq_getElem?_getD, List.getElem_append]
    split
    next within => rw [List.getElem?_eq_getElem within, Option.getD_some]
    next beyond =>
      rw [List.getElem?_eq_none (Nat.le_of_not_lt beyond), Option.getD_none, List.getElem_replicate]

end Library
end SecureServices
