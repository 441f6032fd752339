import Mathlib.Data.List.Basic

namespace SecureServices
namespace Library

/-!
# Loops that may stop early

A `for` loop over a list whose body can return from the surrounding function
is a monadic fold in `Except`.  The rule below is its loop invariant rule: the
invariant may speak about the items already consumed, and each iteration may
use where in the list it stands.
-/

variable {Acc Item Stop : Type*}

/-- A loop that completed, followed by one more completed iteration. -/
theorem foldlM_snoc {body : Acc -> Item -> Except Stop Acc} {done : List Item} {item : Item}
    {start acc next : Acc} (reached : done.foldlM body start = .ok acc)
    (stepped : body acc item = .ok next) : (done ++ [item]).foldlM body start = .ok next := by
  rw [List.foldlM_append, reached]
  change List.foldlM body acc [item] = _
  rw [List.foldlM_cons, stepped]
  rfl

/-- An invariant of the consumed items and the accumulator, kept by every
completed iteration, holds of the whole list when the loop completes.  An
iteration may use that the loop over the items before it completed, and so
any fact already proved about completed loops. -/
theorem foldlM_invariant {body : Acc -> Item -> Except Stop Acc}
    (Invariant : List Item -> Acc -> Prop) {items : List Item} {start final : Acc}
    (initially : Invariant [] start)
    (iterate : forall done item rest acc next, items = done ++ item :: rest ->
      done.foldlM body start = .ok acc -> Invariant done acc -> body acc item = .ok next ->
      Invariant (done ++ [item]) next)
    (completed : items.foldlM body start = .ok final) : Invariant items final := by
  suffices rule : forall rest done acc, items = done ++ rest -> done.foldlM body start = .ok acc ->
      Invariant done acc -> rest.foldlM body acc = .ok final -> Invariant items final from
    rule items [] start rfl rfl initially completed
  intro rest
  induction rest with
  | nil =>
      intro done acc split _reached holds completed
      cases completed
      rw [split, List.append_nil]
      exact holds
  | cons item rest inductionHypothesis =>
      intro done acc split reached holds completed
      rw [List.foldlM_cons] at completed
      cases stepped : body acc item with
      | error reason =>
          rw [stepped] at completed
          cases completed
      | ok next =>
          rw [stepped] at completed
          refine inductionHypothesis (done ++ [item]) next ?_ (foldlM_snoc reached stepped)
            (iterate done item rest acc next split reached holds stepped) completed
          rw [split, List.append_assoc]
          rfl

/-- A loop whose every iteration completes from a good accumulator completes. -/
theorem foldlM_completes {body : Acc -> Item -> Except Stop Acc}
    (Invariant : List Item -> Acc -> Prop) {items : List Item} {start : Acc}
    (initially : Invariant [] start)
    (iterate : forall done item rest acc, items = done ++ item :: rest ->
      done.foldlM body start = .ok acc -> Invariant done acc ->
      exists next, body acc item = .ok next ∧ Invariant (done ++ [item]) next) :
    exists final, items.foldlM body start = .ok final ∧ Invariant items final := by
  suffices rule : forall rest done acc, items = done ++ rest -> done.foldlM body start = .ok acc ->
      Invariant done acc -> exists final, items.foldlM body start = .ok final ∧ Invariant items final from
    rule items [] start rfl rfl initially
  intro rest
  induction rest with
  | nil =>
      intro done acc split reached holds
      rw [split, List.append_nil]
      exact ⟨acc, reached, holds⟩
  | cons item rest inductionHypothesis =>
      intro done acc split reached holds
      rcases iterate done item rest acc split reached holds with ⟨next, stepped, kept⟩
      refine inductionHypothesis (done ++ [item]) next ?_ (foldlM_snoc reached stepped) kept
      rw [split, List.append_assoc]
      rfl

/-- What the body requires of an item in every accumulator holds of every
item of a loop that completed. -/
theorem forall_mem_of_foldlM {body : Acc -> Item -> Except Stop Acc} {Good : Item -> Prop}
    (requires : forall acc item next, body acc item = .ok next -> Good item)
    {items : List Item} {start final : Acc}
    (completed : items.foldlM body start = .ok final) : forall item, item ∈ items -> Good item := by
  refine foldlM_invariant (fun done _ => forall item, item ∈ done -> Good item)
    (fun item member => nomatch member) ?_ completed
  intro done item _rest acc next _split _reached good stepped other member
  rcases List.mem_append.mp member with earlier | last
  · exact good other earlier
  · rw [List.mem_singleton.mp last]
    exact requires acc item next stepped

theorem foldlM_singleton (body : Acc -> Item -> Except Stop Acc) (start : Acc) (item : Item) :
    [item].foldlM body start = body start item := by
  rw [List.foldlM_cons]
  exact bind_pure _

/-- What is computed over a list, each time from the result over the items
before, is a loop over the list. -/
theorem eq_foldlM_of_snoc {body : Acc -> Item -> Except Stop Acc}
    {whole : List Item -> Except Stop Acc} {items : List Item} {start : Acc}
    (initially : whole [] = .ok start)
    (iterate : forall done item rest, items = done ++ item :: rest ->
      whole (done ++ [item]) = whole done >>= fun acc => body acc item) :
    whole items = items.foldlM body start := by
  suffices rule : forall rest done, items = done ++ rest -> whole done = done.foldlM body start ->
      whole items = items.foldlM body start from rule items [] rfl initially
  intro rest
  induction rest with
  | nil =>
      intro done split agrees
      rw [split, List.append_nil, agrees]
  | cons item rest inductionHypothesis =>
      intro done split agrees
      apply inductionHypothesis (done ++ [item])
      · rw [split, List.append_assoc]
        rfl
      · rw [iterate done item rest split, agrees, List.foldlM_append]
        congr 1
        funext acc
        rw [foldlM_singleton]

/-- A completed loop, taken apart at one of its items. -/
theorem foldlM_split {body : Acc -> Item -> Except Stop Acc} {done rest : List Item} {item : Item}
    {start final : Acc} (completed : (done ++ item :: rest).foldlM body start = .ok final) :
    exists acc next, done.foldlM body start = .ok acc ∧ body acc item = .ok next ∧
      rest.foldlM body next = .ok final := by
  rw [List.foldlM_append] at completed
  cases reached : done.foldlM body start with
  | error reason =>
      rw [reached] at completed
      cases completed
  | ok acc =>
      rw [reached] at completed
      change (item :: rest).foldlM body acc = _ at completed
      rw [List.foldlM_cons] at completed
      cases stepped : body acc item with
      | error reason =>
          rw [stepped] at completed
          cases completed
      | ok next =>
          rw [stepped] at completed
          exact ⟨acc, next, rfl, stepped, completed⟩

/-- A relation that fails between two items of a list fails for a first item:
it holds between the items before that one, and from each of them to the rest. -/
theorem exists_first_of_not_pairwise {Related : Item -> Item -> Prop} {items : List Item}
    (fails : ¬ items.Pairwise Related) :
    exists done item rest, items = done ++ item :: rest ∧ done.Pairwise Related ∧
      (forall earlier, earlier ∈ done -> forall later, later ∈ item :: rest -> Related earlier later) ∧
      exists later, later ∈ rest ∧ ¬ Related item later := by
  induction items with
  | nil => exact absurd List.Pairwise.nil fails
  | cons first items inductionHypothesis =>
      by_cases related : forall later, later ∈ items -> Related first later
      · have failsLater : ¬ items.Pairwise Related :=
          fun holds => fails (List.pairwise_cons.mpr ⟨related, holds⟩)
        rcases inductionHypothesis failsLater with ⟨done, item, rest, rfl, before, across, failing⟩
        refine ⟨first :: done, item, rest, rfl, ?_, ?_, failing⟩
        · exact List.pairwise_cons.mpr
            ⟨fun later member => related later (List.mem_append_left _ member), before⟩
        · intro earlier member later follows
          rcases List.mem_cons.mp member with rfl | member
          · exact related later (List.mem_append_right _ follows)
          · exact across earlier member later follows
      · push Not at related
        rcases related with ⟨later, member, unrelated⟩
        exact ⟨[], first, items, rfl, List.Pairwise.nil, by simp, later, member, unrelated⟩

/-- A loop that stopped was stopped by one of its iterations, and the loop
over the items before that one completed. -/
theorem exists_of_foldlM_error {body : Acc -> Item -> Except Stop Acc} {items : List Item}
    {start : Acc} {reason : Stop} (stopped : items.foldlM body start = .error reason) :
    exists done item rest acc, items = done ++ item :: rest ∧ done.foldlM body start = .ok acc ∧
      body acc item = .error reason := by
  induction items generalizing start with
  | nil => cases stopped
  | cons item rest inductionHypothesis =>
      rw [List.foldlM_cons] at stopped
      cases stepped : body start item with
      | error other =>
          rw [stepped] at stopped
          cases stopped
          exact ⟨[], item, rest, start, rfl, rfl, stepped⟩
      | ok next =>
          rw [stepped] at stopped
          rcases inductionHypothesis stopped with ⟨done, last, remaining, acc, rfl, reached, stopped⟩
          refine ⟨item :: done, last, remaining, acc, rfl, ?_, stopped⟩
          rw [List.foldlM_cons, stepped]
          exact reached

end Library
end SecureServices
