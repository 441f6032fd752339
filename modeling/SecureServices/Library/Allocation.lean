import Mathlib.Logic.Function.Basic

namespace SecureServices
namespace Library

/-!
# Exclusive allocation

Slots hold ids, and a separate set records which ids are taken.  The two
sides are in step when no id has two holders and the taken ids are exactly
the held ones.  A program that updates the two sides one after the other
keeps them in step as long as each update is one of the moves below.

In the middle of a batch of updates the record may run ahead: an id is no
longer recorded although its holder has yet to be visited.  Such a slot is
owed a visit, and the relation carries the set of owed slots.  It is empty
before and after a batch.  The taken set of a move is described pointwise, so
that it can be a word whose bits are set and cleared.
-/

variable {Slot Id : Type*}

/-- No id has two holders, every taken id is held, and every held id is taken
unless its holder is owed a visit. -/
structure InStep (owed : Slot -> Prop) (holder : Slot -> Option Id) (taken : Id -> Prop) : Prop where
  exclusive : forall left right id, holder left = some id -> holder right = some id -> left = right
  sound : forall id, taken id -> exists slot, holder slot = some id
  complete : forall slot id, holder slot = some id -> taken id ∨ owed slot

variable {holder : Slot -> Option Id} {taken takenAfter : Id -> Prop} {owed owedAfter : Slot -> Prop}

/-- Nothing holds an id, and no id is taken. -/
theorem InStep.empty (none_taken : forall id, ¬ taken id) :
    InStep owed (fun _ : Slot => (none : Option Id)) taken where
  exclusive := fun _ _ _ held => nomatch held
  sound := fun id bit => absurd bit (none_taken id)
  complete := fun _ _ held => nomatch held

/-- With no slot owed a visit, the taken ids are exactly the held ones. -/
theorem InStep.taken_iff (settled : InStep owed holder taken) (noneOwed : forall slot, ¬ owed slot)
    (id : Id) : taken id <-> exists slot, holder slot = some id := by
  refine ⟨settled.sound id, fun ⟨slot, held⟩ => ?_⟩
  exact (settled.complete slot id held).resolve_right (noneOwed slot)

/-- A slot may be owed a visit without any id having been dropped. -/
theorem InStep.weaken (before : InStep owed holder taken)
    (more : forall slot, owed slot -> owedAfter slot) : InStep owedAfter holder taken :=
  ⟨before.exclusive, before.sound, fun slot id held =>
    (before.complete slot id held).imp_right (more slot)⟩

variable [DecidableEq Slot]

/-- A slot without an id takes an id that is free and that no owed slot
still holds. -/
theorem InStep.acquire (before : InStep owed holder taken) {slot : Slot} {id : Id}
    (idle : holder slot = none) (free : ¬ taken id)
    (notOwed : forall other, owed other -> holder other ≠ some id)
    (after : forall other, takenAfter other <-> taken other ∨ other = id) :
    InStep owed (Function.update holder slot (some id)) takenAfter := by
  have unheld : forall other, holder other ≠ some id := by
    intro other held
    rcases before.complete other id held with bit | visit
    · exact free bit
    · exact notOwed other visit held
  have elsewhere : forall {other found}, Function.update holder slot (some id) other = some found ->
      other ≠ slot -> holder other = some found := by
    intro other found held different
    rwa [Function.update_of_ne different] at held
  refine ⟨fun left right other leftHolds rightHolds => ?_, fun other bit => ?_,
    fun keeper other held => ?_⟩
  · by_cases atLeft : left = slot <;> by_cases atRight : right = slot
    · exact atLeft.trans atRight.symm
    · rw [atLeft, Function.update_self] at leftHolds
      cases leftHolds
      exact absurd (elsewhere rightHolds atRight) (unheld right)
    · rw [atRight, Function.update_self] at rightHolds
      cases rightHolds
      exact absurd (elsewhere leftHolds atLeft) (unheld left)
    · exact before.exclusive left right other (elsewhere leftHolds atLeft)
        (elsewhere rightHolds atRight)
  · rcases (after other).mp bit with old | rfl
    · rcases before.sound other old with ⟨keeper, held⟩
      have different : keeper ≠ slot := fun same => by simp [same, idle] at held
      exact ⟨keeper, by rw [Function.update_of_ne different, held]⟩
    · exact ⟨slot, Function.update_self ..⟩
  · by_cases atSlot : keeper = slot
    · rw [atSlot, Function.update_self] at held
      exact Or.inl ((after other).mpr (Or.inr (Option.some.inj held).symm))
    · exact (before.complete keeper other (elsewhere held atSlot)).imp_left
        (fun bit => (after other).mpr (Or.inl bit))

/-- A slot gives up what it holds, and one id is struck from the record.  That
id must be the one given up, or else every slot that still holds it must be
owed a visit from now on. -/
theorem InStep.release (before : InStep owed holder taken) {slot : Slot} {id : Id}
    (struck : holder slot = some id ∨
      holder slot = none ∧ forall other, holder other = some id -> owedAfter other)
    (more : forall other, owed other -> other ≠ slot -> owedAfter other)
    (after : forall other, takenAfter other <-> taken other ∧ other ≠ id) :
    InStep owedAfter (Function.update holder slot none) takenAfter := by
  have elsewhere : forall {other found}, Function.update holder slot none other = some found ->
      other ≠ slot ∧ holder other = some found := by
    intro other found held
    have different : other ≠ slot := fun same => by simp [same] at held
    rw [Function.update_of_ne different] at held
    exact ⟨different, held⟩
  refine ⟨fun left right other leftHolds rightHolds => ?_, fun other bit => ?_,
    fun keeper other held => ?_⟩
  · exact before.exclusive left right other (elsewhere leftHolds).2 (elsewhere rightHolds).2
  · rcases (after other).mp bit with ⟨old, different⟩
    rcases before.sound other old with ⟨keeper, held⟩
    have notSlot : keeper ≠ slot := by
      rintro rfl
      rcases struck with given | ⟨idle, _⟩
      · exact different (Option.some.inj (held.symm.trans given))
      · rw [idle] at held
        cases held
    exact ⟨keeper, by rw [Function.update_of_ne notSlot, held]⟩
  · rcases elsewhere held with ⟨notSlot, held⟩
    rcases before.complete keeper other held with bit | visit
    · by_cases same : other = id
      · subst same
        rcases struck with given | ⟨_, visited⟩
        · exact absurd (before.exclusive keeper slot other held given) notSlot
        · exact Or.inr (visited keeper held)
      · exact Or.inl ((after other).mpr ⟨bit, same⟩)
    · exact Or.inr (more keeper visit notSlot)

end Library
end SecureServices
