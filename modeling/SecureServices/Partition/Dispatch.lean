import SecureServices.Partition.MessageHandler

namespace SecureServices
namespace Partition

open Library Ffa

/-!
# Dispatch by UUID

A request goes to the service with its UUID that was appended last.  Whatever
was appended after it is passed by, and whatever was appended before it is not
reached, so a service can be shadowed but never disturbed by another one.
-/

variable {R : Type}

/-- The handler that results from appending nodes one by one. -/
def chain (nodes : List (HandlerNode R)) : MessageHandler R :=
  nodes.foldl MessageHandler.append MessageHandler.new

theorem chain_eq_reverse (nodes : List (HandlerNode R)) : chain nodes = nodes.reverse := by
  have appended : forall handler : MessageHandler R,
      nodes.foldl MessageHandler.append handler = nodes.reverse ++ handler := by
    induction nodes with
    | nil => exact fun handler => rfl
    | cons node rest inductionHypothesis =>
        intro handler
        rw [List.foldl_cons, inductionHypothesis, List.reverse_cons, List.append_assoc]
        rfl
  exact (appended MessageHandler.new).trans (List.append_nil _)

/-- Nodes of other services are passed by, and keep their states. -/
theorem handle_append {passed : MessageHandler R} {message : MsgSendDirectReq2}
    (others : forall node, node ∈ passed -> node.service.uuid ≠ message.uuid)
    (rest : MessageHandler R) (env : Env R) :
    MessageHandler.handle (passed ++ rest) message env =
      (rest.handle message env).map (fun (result, next, env) => (result, passed ++ next, env)) := by
  induction passed with
  | nil =>
      cases handled : rest.handle message env with
      | none => simp only [List.nil_append, handled, Option.map_none]
      | some outcome => simp only [List.nil_append, handled, Option.map_some]
  | cons node passed inductionHypothesis =>
      have other : ¬ node.service.uuid = message.uuid := others node List.mem_cons_self
      have remaining := inductionHypothesis
        (fun later member => others later (List.mem_cons_of_mem node member))
      rw [List.cons_append, MessageHandler.handle, if_neg other, remaining, Option.map_map]
      rfl

/-- The service with the message's UUID that was appended last. -/
theorem exists_last {nodes : List (HandlerNode R)} {uuid : Uuid}
    (present : exists node, node ∈ nodes ∧ node.service.uuid = uuid) :
    exists before node after, nodes = before ++ node :: after ∧ node.service.uuid = uuid ∧
      forall later, later ∈ after -> later.service.uuid ≠ uuid := by
  induction nodes using List.reverseRecOn with
  | nil =>
      rcases present with ⟨node, member, _⟩
      cases member
  | append_singleton nodes last inductionHypothesis =>
      by_cases same : last.service.uuid = uuid
      · refine ⟨nodes, last, [], rfl, same, ?_⟩
        intro later member
        cases member
      · rcases present with ⟨node, member, found⟩
        have earlier : node ∈ nodes := by
          rcases List.mem_append.mp member with earlier | final
          · exact earlier
          · rw [List.mem_singleton.mp final] at found
            exact absurd found same
        rcases inductionHypothesis ⟨node, earlier, found⟩ with ⟨before, owner, after, rfl, owns, others⟩
        refine ⟨before, owner, after ++ [last], by simp, owns, ?_⟩
        intro later member
        rcases List.mem_append.mp member with between | final
        · exact others later between
        · rw [List.mem_singleton.mp final]
          exact same

/-- A message runs the last appended service with its UUID and no other one,
and a message for which there is no service is refused without any effect. -/
theorem dispatched_by_uuid (nodes : List (HandlerNode R)) (message : MsgSendDirectReq2) (env : Env R) :
    ((exists node, node ∈ nodes ∧ node.service.uuid = message.uuid) ->
      exists before node after, nodes = before ++ node :: after ∧
        node.service.uuid = message.uuid ∧
        (forall later, later ∈ after -> later.service.uuid ≠ message.uuid) ∧
        (chain nodes).handle message env =
          (node.service.ffaMsgSendDirectReq2 node.state message env).map
            (fun (result, state, env) =>
              (result, chain (before ++ ⟨node.service, state⟩ :: after), env))) ∧
    ((forall node, node ∈ nodes -> node.service.uuid ≠ message.uuid) ->
      (chain nodes).handle message env =
        some (.error (.other "Unknown UUID"), chain nodes, env)) := by
  constructor
  · intro present
    rcases exists_last present with ⟨before, node, after, rfl, owns, others⟩
    refine ⟨before, node, after, rfl, owns, others, ?_⟩
    have passed : forall later, later ∈ after.reverse -> later.service.uuid ≠ message.uuid :=
      fun later member => others later (List.mem_reverse.mp member)
    have split : forall owner : HandlerNode R,
        chain (before ++ owner :: after) = after.reverse ++ owner :: before.reverse := by
      intro owner
      rw [chain_eq_reverse]
      simp
    rw [split, handle_append passed, MessageHandler.handle, if_pos owns, Option.map_map]
    simp only [split]
    rfl
  · intro absent
    have passed : forall node, node ∈ nodes.reverse -> node.service.uuid ≠ message.uuid :=
      fun node member => absent node (List.mem_reverse.mp member)
    have terminal := handle_append passed MessageHandler.new env
    rw [chain_eq_reverse]
    simpa [MessageHandler.new, MessageHandler.handle] using terminal

end Partition
end SecureServices
