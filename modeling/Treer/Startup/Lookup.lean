import Treer.Startup.Denial

/-!
# What the store holds after an operation

A failed operation leaves every entry of the memory as it was; one that succeeds changes
the entry of its agent and no other.
-/

namespace Treer.Startup.StartupStore

open Foundation
variable {β : Type} {codec : Codec β} {store : StartupStore β}

theorem get_commit (codec : Codec β) (store : StartupStore β) (answers : DiskAnswers)
    (updated : StoreState) :
    (∃ error, (store.commit codec answers updated).1 = .error error ∧
      (store.commit codec answers updated).2.get = store.get) ∨
    ((store.commit codec answers updated).1 = .ok () ∧
      (store.commit codec answers updated).2.get = updated.entries.find?) := by
  rcases commit_cases codec store answers updated with
    ⟨error, same⟩ | ⟨error, disk, failed, _⟩ | ⟨revision, disk, done, _⟩
  · rw [same]
    exact .inl ⟨error, rfl, rfl⟩
  · rw [failed]
    exact .inl ⟨error, rfl, rfl⟩
  · rw [done]
    exact .inr ⟨rfl, rfl⟩

theorem find?_put_eq (entry : StoredAgentStartup) : (store.state.entries.put entry).find? =
      Function.update store.get entry.spec.agentId (some entry) := by
  funext agentId
  rw [Table.find?_put, Function.update_apply]
  rfl

theorem get_upsert (entry : StoredAgentStartup) (answers : DiskAnswers) :
    (∃ error, (store.upsert codec entry answers).1 = .error error ∧
      (store.upsert codec entry answers).2.get = store.get) ∨
    ((store.upsert codec entry answers).1 = .ok () ∧
      (store.upsert codec entry answers).2.get =
        Function.update store.get entry.spec.agentId (some entry)) := by
  unfold upsert
  split
  · exact .inl ⟨_, rfl, rfl⟩
  have committed := get_commit codec store answers
    { store.state with entries := store.state.entries.put entry }
  rw [find?_put_eq] at committed
  exact committed

theorem get_update (agentId : String) (mutate : StoredAgentStartup → StoredAgentStartup)
    (answers : DiskAnswers) : (store.update codec agentId mutate answers).2.get = store.get ∨
    ∃ entry, store.get agentId = some entry ∧
      (store.update codec agentId mutate answers).2.get =
        Function.update store.get agentId (some (mutate entry)) := by
  unfold update
  split
  · exact .inl rfl
  rename_i entry found
  split
  · exact .inl rfl
  rename_i same
  rcases get_commit codec store answers
    { store.state with entries := store.state.entries.put (mutate entry) } with
    ⟨error, _, kept⟩ | ⟨_, changed⟩
  · exact .inl kept
  right
  refine ⟨entry, found, ?_⟩
  rw [changed, find?_put_eq, not_not.mp same]

theorem get_remove (agentId : String) (answers : DiskAnswers) :
    (store.remove codec agentId answers).2.get = store.get ∨
      (store.remove codec agentId answers).2.get = Function.update store.get agentId none := by
  unfold remove
  split
  · exact .inl rfl
  rcases get_commit codec store answers
    { store.state with entries := without store.state.entries agentId } with
    ⟨error, _, kept⟩ | ⟨_, changed⟩
  · exact .inl kept
  · exact .inr (changed.trans (Table.find?_delete_key _ agentId))

end Treer.Startup.StartupStore
