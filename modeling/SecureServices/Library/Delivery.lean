import SecureServices.Library.Action

namespace SecureServices
namespace Library

/-!
# Items delivered one by one

A source is read item by item, at consecutive indices, and every read may
change it or fail.  What it delivers from some index on is a relation between
the state before, the items, and the state after them.
-/

variable {Source Stop Item : Type}

/-- The reads from the first index on return these items, one each. -/
inductive Delivers (read : Nat -> Action Source Stop Item) : Nat -> Source -> List Item -> Source -> Prop
  | nil (first : Nat) (source : Source) : Delivers read first source [] source
  | cons {first : Nat} {source middle after : Source} {item : Item} {items : List Item}
      (reads : read first source = (.ok item, middle)) (rest : Delivers read (first + 1) middle items after) :
      Delivers read first source (item :: items) after

namespace Delivers

variable {read : Nat -> Action Source Stop Item} {first : Nat} {source after : Source}

theorem append {front rest : List Item} {middle : Source} (early : Delivers read first source front middle)
    (late : Delivers read (first + front.length) middle rest after) :
    Delivers read first source (front ++ rest) after := by
  induction early with
  | nil first source => exact late
  | cons reads _ inductionHypothesis =>
      rw [List.length_cons, Nat.add_comm _ 1, ← Nat.add_assoc] at late
      exact .cons reads (inductionHypothesis late)

/-- A delivery in two parts. -/
theorem split {front rest : List Item} (whole : Delivers read first source (front ++ rest) after) :
    exists middle, Delivers read first source front middle ∧
      Delivers read (first + front.length) middle rest after := by
  induction front generalizing first source with
  | nil => exact ⟨source, .nil first source, whole⟩
  | cons item front inductionHypothesis =>
      cases whole with
      | cons reads later =>
          rcases inductionHypothesis later with ⟨middle, early, late⟩
          refine ⟨middle, .cons reads early, ?_⟩
          rw [List.length_cons, Nat.add_comm _ 1, ← Nat.add_assoc]
          exact late

/-- A source that does not look at the index delivers the same at every index. -/
theorem reindex {next : Action Source Stop Item} {items : List Item}
    (delivers : Delivers (fun _ => next) first source items after) (other : Nat) :
    Delivers (fun _ => next) other source items after := by
  induction delivers generalizing other with
  | nil first source => exact .nil other source
  | cons reads _ inductionHypothesis => exact .cons reads (inductionHypothesis (other + 1))

end Delivers

/-- A source delivers as many items as are wanted, or fails after some of them. -/
theorem delivers_or_fails (read : Nat -> Action Source Stop Item) (first count : Nat) (source : Source) :
    (exists items after, items.length = count ∧ Delivers read first source items after) ∨
      exists items middle reason after, items.length < count ∧ Delivers read first source items middle ∧
        read (first + items.length) middle = (.error reason, after) := by
  induction count generalizing first source with
  | zero => exact .inl ⟨[], source, rfl, .nil first source⟩
  | succ count inductionHypothesis =>
      rcases (read first).outcome_cases source with ⟨item, middle, reads⟩ | ⟨reason, after, fails⟩
      · rcases inductionHypothesis (first + 1) middle with
          ⟨items, after, length, delivers⟩ | ⟨items, last, reason, after, short, delivers, fails⟩
        · exact .inl ⟨item :: items, after, congrArg Nat.succ length, .cons reads delivers⟩
        · refine .inr ⟨item :: items, last, reason, after, Nat.succ_lt_succ short, .cons reads delivers, ?_⟩
          rw [List.length_cons, Nat.add_comm _ 1, ← Nat.add_assoc]
          exact fails
      · exact .inr ⟨[], source, reason, after, Nat.succ_pos count, .nil first source, fails⟩

/-! ## Keeping a record of the reads -/

/-- The same source, with the indices at which it has been read. -/
def recorded (read : Nat -> Action Source Stop Item) (index : Nat) : Action (Source × List Nat) Stop Item :=
  fun (source, calls) =>
    let (result, after) := read index source
    (result, (after, calls ++ [index]))

theorem recorded_eq {read : Nat -> Action Source Stop Item} {index : Nat} {source after : Source}
    {result : Except Stop Item} (reads : read index source = (result, after)) (calls : List Nat) :
    recorded read index (source, calls) = (result, (after, calls ++ [index])) := by
  rw [recorded]
  dsimp only
  rw [reads]

theorem Delivers.recorded {read : Nat -> Action Source Stop Item} {first : Nat} {source after : Source}
    {items : List Item} (delivers : Delivers read first source items after) (calls : List Nat) :
    Delivers (Library.recorded read) first (source, calls) items
      (after, calls ++ List.range' first items.length) := by
  induction delivers generalizing calls with
  | nil first source =>
      rw [List.length_nil, List.range'_zero, List.append_nil]
      exact .nil first (source, calls)
  | @cons first _ _ _ _ _ reads _ inductionHypothesis =>
      refine .cons (recorded_eq reads calls) ?_
      have later := inductionHypothesis (calls ++ [first])
      rw [List.append_assoc, List.singleton_append] at later
      rw [List.length_cons, List.range'_succ]
      exact later

end Library
end SecureServices
