import Treer.Controller.Generations

/-!
# The prompt queue of a bridge

A bridge fetches its prompts from a queue that the lock of its agent guards. A read that asks
for more prompts than there are panics and poisons the lock.
-/

namespace Treer.Controller

open Foundation Protocol List

def bridgePromptQueueLimit : Nat := 256

def bridgePromptReadLimit : Nat := 100

def bridgePromptMaxBytes : Nat := 64 * 1024

structure AgentPromptQueueResponse where
  agentId : String
  prompts : List AgentPrompt
  remaining : Nat

/-- How many prompts a read asks for. -/
def readCount (limit : Option Nat) : Nat :=
  min (limit.getD bridgePromptReadLimit) bridgePromptReadLimit

namespace ControllerAgent

/-- The section of `prompt` that is for a bridge. -/
def prompt (agent : ControllerAgent) (operationId text : String) (now : Int) :
    Except ProtocolError AgentInfo × ControllerAgent :=
  if bridgePromptQueueLimit ≤ agent.promptQueue.length then
    (.error ⟨"agent_prompt_queue_full", "bridge agent prompt queue is full", none⟩, agent)
  else
    let agent := { agent with
      promptQueue := agent.promptQueue ++ [⟨operationId, text, now⟩]
      info.status := .working
      info.updatedAt := now }
    (.ok agent.info, agent)

/-- The section of `read_prompt_queue`, or `none` if `drain` panics. -/
def readPromptQueue (agent : ControllerAgent) (limit : Option Nat) (now : Int) :
    Option (Except ProtocolError AgentPromptQueueResponse × ControllerAgent) :=
  if agent.info.kind ≠ "bridge" then
    some (.error ⟨"agent_prompt_queue_unavailable",
      "prompt queue is available only for bridge agents", none⟩, agent)
  else if agent.promptQueue.length < readCount limit then none
  else
    let left := agent.promptQueue.drop (readCount limit)
    let rested := left.isEmpty && agent.info.status == .working
    some (.ok ⟨agent.info.agentId, agent.promptQueue.take (readCount limit), left.length⟩,
      { agent with
        promptQueue := left
        info.status := if rested then .idle else agent.info.status
        info.updatedAt := if rested then now else agent.info.updatedAt })

end ControllerAgent

/-- A call on the queue. -/
inductive QueueAction where
  | prompt (operationId text : String) (now : Int)
  | read (limit : Option Nat) (now : Int)

/-- What a call answers. -/
inductive QueueOutcome where
  | prompted (result : Except ProtocolError AgentInfo)
  | read (result : Except ProtocolError AgentPromptQueueResponse)
  | panicked

def lockPoisoned : ProtocolError := ⟨"state_error", "agent state lock poisoned", none⟩

/-- One call on a bridge, or on a lock that was poisoned. -/
def queueStep : Option ControllerAgent → QueueAction → QueueOutcome × Option ControllerAgent
  | state, .prompt operationId text now =>
    if text.isEmpty then
      (.prompted (.error ⟨"invalid_request", "agent prompt cannot be empty", none⟩), state)
    else match state with
      | none => (.prompted (.error lockPoisoned), none)
      | some agent =>
        if bridgePromptMaxBytes < text.utf8ByteSize then
          (.prompted (.error
            ⟨"agent_prompt_too_large", "bridge agent prompt exceeds 64 KiB", none⟩), agent)
        else ((agent.prompt operationId text now).map .prompted some)
  | none, .read _ _ => (.read (.error lockPoisoned), none)
  | some agent, .read limit now =>
    match agent.readPromptQueue limit now with
    | some (result, agent) => (.read result, agent)
    | none => (.panicked, none)

abbrev QueueEntry := Entry (Option ControllerAgent) QueueAction QueueOutcome

/-- The prompt that the call put into the queue. -/
def accepted (entry : QueueEntry) : List AgentPrompt :=
  match entry.action, entry.outcome with
  | .prompt operationId text now, .prompted (.ok _) => [⟨operationId, text, now⟩]
  | _, _ => []

/-- The prompts that the call handed out. -/
def handedOut (entry : QueueEntry) : List AgentPrompt :=
  match entry.outcome with
  | .read (.ok response) => response.prompts
  | _ => []

/-- A read of the queue as it was before the call. -/
def ReadsQueue (entry : QueueEntry) : Prop :=
  ∀ limit now, entry.action = .read limit now → ∃ agent response,
    entry.before = some agent ∧ entry.outcome = .read (.ok response) ∧
      response.prompts.length = min (readCount limit) agent.promptQueue.length ∧
      response.prompts.length + response.remaining = agent.promptQueue.length

/-- A call that returns and leaves a queue within its limit. -/
structure IsServed (entry : QueueEntry) : Prop where
  returns : entry.outcome ≠ .panicked
  reads : ReadsQueue entry
  bounded : ∃ next, entry.after = some next ∧ next.promptQueue.length ≤ bridgePromptQueueLimit

/-- The calls use the prompts of the agent as a bounded queue. -/
structure IsFifo (agent : ControllerAgent) (actions : List QueueAction) : Prop where
  served : ∀ entry ∈ trace queueStep agent actions, IsServed entry
  inOrder : ∃ final, exec queueStep agent actions = some final ∧
    (trace queueStep agent actions).flatMap handedOut ++ final.promptQueue =
      agent.promptQueue ++ (trace queueStep agent actions).flatMap accepted

/-- A read asks for no more than there is. -/
def ReadsWithin : Option ControllerAgent → QueueAction → Prop
  | some agent, .read limit _ => readCount limit ≤ agent.promptQueue.length
  | _, _ => True

/-- A step from the queue of a bridge to the queue of a bridge. -/
@[mk_iff]
structure Served (agent : ControllerAgent) (action : QueueAction) (outcome : QueueOutcome)
    (next : ControllerAgent) : Prop where
  step : queueStep agent action = (outcome, some next)
  bridge : next.info.kind = "bridge"
  bounded : next.promptQueue.length ≤ bridgePromptQueueLimit
  returns : outcome ≠ .panicked
  reads : ReadsQueue ⟨agent, action, outcome, next⟩
  inOrder : handedOut ⟨agent, action, outcome, next⟩ ++ next.promptQueue =
    agent.promptQueue ++ accepted ⟨agent, action, outcome, next⟩

variable {agent : ControllerAgent} {action : QueueAction}

section
variable (bridge : agent.info.kind = "bridge")
include bridge

theorem served_prompt (bounded : agent.promptQueue.length ≤ bridgePromptQueueLimit)
    (operationId text : String) (now : Int) :
    ∃ outcome next, Served agent (.prompt operationId text now) outcome next := by
  simp only [served_iff, queueStep, ControllerAgent.prompt]
  split_ifs with empty long full
  · exact ⟨_, agent, rfl, bridge, bounded, nofun, nofun, by simp [handedOut, accepted]⟩
  · exact ⟨_, agent, rfl, bridge, bounded, nofun, nofun, by simp [handedOut, accepted]⟩
  · exact ⟨_, agent, rfl, bridge, bounded, nofun, nofun, by simp [handedOut, accepted]⟩
  refine ⟨_, _, rfl, bridge, ?_, nofun, nofun, by simp [handedOut, accepted]⟩
  rw [length_append]
  exact Nat.lt_of_not_le full

theorem served_read
    (bounded : agent.promptQueue.length ≤ bridgePromptQueueLimit) {limit : Option Nat}
    (within : readCount limit ≤ agent.promptQueue.length) (now : Int) :
    ∃ outcome next, Served agent (.read limit now) outcome next := by
  simp only [served_iff, queueStep, ControllerAgent.readPromptQueue, bridge, ne_eq,
    not_true_eq_false, if_false, Nat.not_lt.mpr within]
  refine ⟨_, _, rfl, rfl, ?_, nofun, ?_, by simp [handedOut, accepted]⟩
  · rw [length_drop]
    omega
  · rintro _ _ ⟨⟩
    refine ⟨agent, _, rfl, rfl, length_take, ?_⟩
    rw [← length_append, take_append_drop]

/-- A read that asks for more than there is. -/
theorem queueStep_of_not_readsWithin
    (beyond : ¬ReadsWithin agent action) : queueStep agent action = (.panicked, none) := by
  cases action with
  | prompt => exact absurd trivial beyond
  | read limit now =>
    simp [queueStep, ControllerAgent.readPromptQueue, bridge, Nat.lt_of_not_le beyond]

theorem served_of_readsWithin (bounded : agent.promptQueue.length ≤ bridgePromptQueueLimit)
    (within : ReadsWithin agent action) : ∃ outcome next, Served agent action outcome next := by
  cases action with
  | prompt operationId text now => exact served_prompt bridge bounded operationId text now
  | read limit now => exact served_read bridge bounded within now

end

variable {actions : List QueueAction}

theorem isFifo_of_readsWithin (bridge : agent.info.kind = "bridge")
    (bounded : agent.promptQueue.length ≤ bridgePromptQueueLimit)
    (within : AllSteps queueStep ReadsWithin agent actions) : IsFifo agent actions := by
  induction actions generalizing agent with
  | nil => exact ⟨forall_mem_nil _, agent, rfl, (append_nil _).symm⟩
  | cons action rest ih =>
    obtain ⟨outcome, next, served⟩ := served_of_readsWithin bridge bounded within.1
    have others := within.2
    rw [served.step] at others
    obtain ⟨restServed, final, finalEq, inOrder⟩ := ih served.bridge served.bounded others
    refine ⟨?_, final, ?_, ?_⟩ <;> simp only [trace, exec, served.step]
    · have here : IsServed ⟨agent, action, outcome, next⟩ :=
        ⟨served.returns, served.reads, next, rfl, served.bounded⟩
      exact forall_mem_cons.mpr ⟨here, restServed⟩
    · exact finalEq
    · rw [flatMap_cons, flatMap_cons, append_assoc, inOrder, ← append_assoc, served.inOrder,
        append_assoc]

/-- The queue is a bounded queue in exactly the runs whose reads find what they ask for. -/
theorem promptQueue_is_fifo_iff (agent : ControllerAgent) (bridge : agent.info.kind = "bridge")
    (bounded : agent.promptQueue.length ≤ bridgePromptQueueLimit) (actions : List QueueAction) :
    IsFifo agent actions ↔ AllSteps queueStep ReadsWithin agent actions := by
  refine ⟨fun fifo => ?_, isFifo_of_readsWithin bridge bounded⟩
  have served := fifo.served
  clear fifo
  induction actions generalizing agent with
  | nil => trivial
  | cons action rest ih =>
    by_cases within : ReadsWithin agent action
    · obtain ⟨outcome, next, stepped⟩ := served_of_readsWithin bridge bounded within
      rw [trace, stepped.step] at served
      rw [AllSteps, stepped.step]
      exact ⟨within, ih next stepped.bridge stepped.bounded (forall_mem_cons.mp served).2⟩
    · rw [trace, queueStep_of_not_readsWithin bridge within] at served
      exact absurd rfl (forall_mem_cons.mp served).1.returns

namespace Sample

/-- A bridge that runs. -/
def bridge : ControllerAgent :=
  agentOfProcess (settings "bridge") (hostProcess "x" 10 true) (base "bridge") none 10

/-- A prompt for the bridge. -/
def asked (text : String) : QueueAction := .prompt "op_1" text 0

/-- The bridge is asked twice and reads twice. -/
def exchange : List QueueAction :=
  [asked "hello", asked "again", .read (some 1) 0, .read (some 1) 0]

end Sample

open Sample

theorem read_of_two_prompts : IsFifo bridge exchange ∧
    ((trace queueStep bridge exchange).flatMap handedOut).map (·.text) = ["hello", "again"] :=
  ⟨(promptQueue_is_fifo_iff bridge rfl (by decide) exchange).mpr
    ⟨trivial, trivial, (by decide : readCount (some 1) ≤ 2),
      (by decide : readCount (some 1) ≤ 1), trivial⟩, rfl⟩

/-- The bridge reads while there is no prompt, and can no longer be asked. -/
theorem read_of_no_prompt_poisons : ¬IsFifo bridge [.read none 0, asked "hello"] ∧
    (trace queueStep bridge [.read none 0, asked "hello"]).map (·.outcome) =
      [.panicked, .prompted (.error lockPoisoned)] :=
  ⟨fun fifo => (fifo.served _ mem_cons_self).returns rfl, rfl⟩

end Treer.Controller
