import Treer.Foundation.Acyclic
import Treer.Message.Invariant

/-!
# The context relation

Contexts connect messages of one workspace. Sends and imports both insert a
message after the messages it refers to, so the relation has no cycle, however
the two are mixed and whatever an import chooses as IDs.
-/

namespace Treer.Message

open Foundation
variable {Digest : Type}

/-- A `core_message_contexts` row leads from one message, by workspace and message ID, to another.
-/
def MessageDb.ContextEdge (db : MessageDb Digest) (message context : String × String) : Prop :=
  ∃ row ∈ db.contexts, (row.workspaceId, row.messageId) = message ∧
    (row.workspaceId, row.contextMessageId) = context

theorem Sound.acyclic {db : MessageDb Digest} (sound : Sound db) : Acyclic db.ContextEdge := by
  apply acyclic_of_rank fun message => db.rank message.1 message.2
  rintro _ _ ⟨row, rowMem, rfl, rfl⟩
  exact sound.ordered row rowMem

variable [DecidableEq Digest] {platform : Platform Digest}

/-- In every state of a run from the empty store, contexts form an acyclic relation between stored
messages of one workspace, and every context a send adds was sent to or by its sender. -/
theorem contexts_form_dag (platform : Platform Digest) (calls : List Call) :
    Acyclic (exec (step platform) .empty calls).ContextEdge ∧
      (∀ row ∈ (exec (step platform) .empty calls).contexts,
        (exec (step platform) .empty calls).messageExists row.workspaceId row.messageId = true ∧
        (exec (step platform) .empty calls).messageExists row.workspaceId
          row.contextMessageId = true) ∧
      ∀ entry ∈ trace (step platform) .empty calls, ∀ environment call,
        entry.action = .send environment call →
          ∀ row ∈ entry.after.contexts, row ∉ entry.before.contexts →
            entry.before.SentOrReceived row.workspaceId row.contextMessageId
              call.sender.kind call.sender.id := by
  have sound : Sound (exec (step platform) .empty calls) := sound_exec sound_empty calls
  refine ⟨sound.acyclic, fun row rowMem => ⟨sound.contexts row rowMem,
    sound.contextExists rowMem⟩, ?_⟩
  intro entry entryMem environment call actionEq row rowMem new
  rcases of_mem_trace entryMem with ⟨_, _, -, -, stepped⟩
  rw [actionEq] at stepped
  rcases outcome : entry.outcome with _ | _
  · rw [outcome] at stepped
    rw [eq_of_step_error stepped] at rowMem
    exact absurd rowMem new
  · rw [outcome] at stepped
    rcases answer_eq_ok stepped with ⟨_, -, sent⟩
    -- A context row that appears in a successful send is one of the send's own.
    rcases (SendCall.cases_of_ok sent).2 with ⟨-, same⟩ | ⟨-, created⟩
    · exact absurd (same ▸ rowMem) new
    rcases (Table.mem_of_rows_append created.contexts).mp rowMem with old | own
    · exact absurd old new
    rcases List.mem_map.mp own with ⟨⟨contextId, _⟩, contextMem, rfl⟩
    exact (MessageDb.exists_of_visible
      (created.visible contextId (List.fst_mem_of_mem_zipIdx contextMem))).2

end Treer.Message
