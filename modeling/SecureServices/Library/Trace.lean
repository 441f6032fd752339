import Mathlib.Data.List.Basic

namespace SecureServices
namespace Library

/-!
# Properties of growing traces

A trace is the list of events so far, and it grows at its end.  The notions
below speak about the past of an event: what every event found before it, what
has happened since an event of some kind, and that one kind of event was
followed by another.  Each comes with the rule for one more event, which is all
that an induction over a run needs.
-/

variable {Event : Type*}

/-- An event of a trace that grew by one is the new one, or was there before. -/
theorem snoc_eq_append_cons {trace before after : List Event} {last event : Event}
    (split : trace ++ [last] = before ++ event :: after) :
    (trace = before ∧ last = event ∧ after = []) ∨
      exists earlier, after = earlier ++ [last] ∧ trace = before ++ event :: earlier := by
  rcases List.eq_nil_or_concat' after with rfl | ⟨earlier, final, rfl⟩
  · rcases List.append_inj' split rfl with ⟨same, tail⟩
    cases tail
    exact Or.inl ⟨same, rfl, rfl⟩
  · rw [← List.cons_append, ← List.append_assoc] at split
    rcases List.append_inj' split rfl with ⟨same, tail⟩
    cases tail
    exact Or.inr ⟨earlier, rfl, same⟩

/-- Every event meets a condition on the events before it. -/
def EachAfter (Needs : List Event -> Event -> Prop) (trace : List Event) : Prop :=
  forall before event after, trace = before ++ event :: after -> Needs before event

theorem EachAfter.nil {Needs : List Event -> Event -> Prop} : EachAfter Needs [] := by
  intro before event after split
  cases before <;> cases split

theorem EachAfter.snoc {Needs : List Event -> Event -> Prop} {trace : List Event} {last : Event}
    (each : EachAfter Needs trace) (meets : Needs trace last) : EachAfter Needs (trace ++ [last]) := by
  intro before event after split
  rcases snoc_eq_append_cons split with ⟨rfl, rfl, _⟩ | ⟨earlier, _, rfl⟩
  · exact meets
  · exact each before event earlier rfl

/-- Some event marked the trace, and no later event undid it. -/
def Since (Marks Undoes : Event -> Prop) (trace : List Event) : Prop :=
  exists earlier event later, trace = earlier ++ event :: later ∧ Marks event ∧
    forall other, other ∈ later -> ¬ Undoes other

theorem Since.of_marks {Marks Undoes : Event -> Prop} (trace : List Event) {last : Event}
    (marks : Marks last) : Since Marks Undoes (trace ++ [last]) :=
  ⟨trace, last, [], rfl, marks, fun _ member => absurd member List.not_mem_nil⟩

theorem Since.snoc {Marks Undoes : Event -> Prop} {trace : List Event} {last : Event}
    (since : Since Marks Undoes trace) (kept : ¬ Undoes last) : Since Marks Undoes (trace ++ [last]) := by
  rcases since with ⟨earlier, event, later, rfl, marks, notUndone⟩
  refine ⟨earlier, event, later ++ [last], by simp, marks, fun other member => ?_⟩
  rcases List.mem_append.mp member with before | new
  · exact notUndone other before
  · rw [List.mem_singleton.mp new]
    exact kept

/-- An event of the first kind was followed by one of the second kind. -/
def Followed (First Second : Event -> Prop) (trace : List Event) : Prop :=
  exists earlier first middle second later, trace = earlier ++ first :: (middle ++ second :: later) ∧
    First first ∧ Second second

theorem Followed.snoc {First Second : Event -> Prop} {trace : List Event}
    (followed : Followed First Second trace) (last : Event) : Followed First Second (trace ++ [last]) := by
  rcases followed with ⟨earlier, first, middle, second, later, rfl, isFirst, isSecond⟩
  exact ⟨earlier, first, middle, second, later ++ [last], by simp, isFirst, isSecond⟩

theorem Followed.of_second {First Second : Event -> Prop} {trace : List Event} {first last : Event}
    (member : first ∈ trace) (isFirst : First first) (isSecond : Second last) :
    Followed First Second (trace ++ [last]) := by
  rcases List.append_of_mem member with ⟨earlier, later, rfl⟩
  exact ⟨earlier, first, later, last, [], by simp, isFirst, isSecond⟩

/-- What has happened since each event of a kind. -/
def SinceEach (Marks : Event -> Prop) (Property : List Event -> Prop) (trace : List Event) : Prop :=
  forall before event later, trace = before ++ event :: later -> Marks event -> Property later

theorem SinceEach.nil {Marks : Event -> Prop} {Property : List Event -> Prop} :
    SinceEach Marks Property [] := by
  intro before event later split
  cases before <;> cases split

theorem SinceEach.mono {Marks : Event -> Prop} {Property Weaker : List Event -> Prop}
    {trace : List Event} (since : SinceEach Marks Property trace)
    (weaker : forall later, Property later -> Weaker later) : SinceEach Marks Weaker trace := by
  intro before event later split marks
  exact weaker later (since before event later split marks)

theorem SinceEach.snoc {Marks : Event -> Prop} {Property Next : List Event -> Prop}
    {trace : List Event} {last : Event} (since : SinceEach Marks Property trace)
    (grows : forall later, Property later -> Next (later ++ [last])) (fresh : Marks last -> Next []) :
    SinceEach Marks Next (trace ++ [last]) := by
  intro before event later split marks
  rcases snoc_eq_append_cons split with ⟨_, rfl, rfl⟩ | ⟨earlier, rfl, rfl⟩
  · exact fresh marks
  · exact grows earlier (since before event earlier rfl marks)

end Library
end SecureServices
