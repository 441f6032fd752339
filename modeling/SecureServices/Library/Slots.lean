import Mathlib.Data.Set.Card

namespace SecureServices
namespace Library

/-!
# Slots as a set of keys

A fixed number of slots, some of them in use, each with a key.  As long as no
two slots in use have the same key, the slots are a set of keys, and there is
a free slot exactly if the set is smaller than the number of slots.
-/

variable {Index Key : Type*} [Fintype Index] {used : Index -> Prop} {key : Index -> Key}

theorem ncard_keys_lt_iff (distinct : Set.InjOn key { index | used index }) :
    (Set.image key { index | used index }).ncard < Fintype.card Index <-> exists index, ¬ used index := by
  rw [distinct.ncard_image, ← Nat.card_eq_fintype_card]
  constructor
  · intro fewer
    by_contra full
    push Not at full
    have all : { index | used index } = Set.univ := Set.eq_univ_of_forall full
    rw [all, Set.ncard_univ] at fewer
    exact Nat.lt_irrefl _ fewer
  · rintro ⟨index, free⟩
    apply Set.ncard_lt_card
    intro all
    exact free (Set.eq_univ_iff_forall.mp all index)

end Library
end SecureServices
