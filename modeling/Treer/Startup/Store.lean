import Mathlib.Algebra.Order.Ring.Nat
import Mathlib.Data.Finset.Card
import Mathlib.Data.List.Sort
import Treer.Foundation.Outcome
import Treer.Host.Protocol

/-!
# The startup store

The Controller keeps what it starts after a Host restart in one file, with the ids of
the agents that must never start again. A change is written to a temporary file that
replaces the old one; the memory follows when everything was written. Any step of a
write can fail, also the last one, after the file was replaced.
-/

namespace Treer.Startup

open Foundation Host

def storeVersion : Nat := 2

def maxDeniedAgentIds : Nat := 4096

/-- Revisions are 64 bits wide. -/
def revisionLimit : Nat := 2 ^ 64

/-- How an agent is started. -/
structure AgentStartupSpec where
  (agentId serverId kind name cwd command : String)
  args : List String
  publishPorts : List Nat
  enabled : Bool
  generation : Nat

/-- The declaration of an agent. -/
structure StoredAgentStartup where
  appRevision : Nat
  spec : AgentStartupSpec
  (workspaceId workloadCredential lastHostEpoch : String)
  initialWrites : List HostWrite
  (cols rows : Nat)

/-- What the file holds. -/
structure StoreFile where
  version : Nat
  entries : List StoredAgentStartup
  deniedAgentIds : Finset String

/-- Every entry stands under the id of its own spec: no operation puts one elsewhere. -/
abbrev Entries := Table StoredAgentStartup (·.spec.agentId)

/-- What the store holds. -/
structure StoreState where
  entries : Entries
  deniedAgentIds : Finset String
  revision : Nat

def StoreState.default : StoreState where
  entries := Table.empty
  deniedAgentIds := ∅
  revision := 0

inductive ErrorKind where
  | notFound
  | permissionDenied
  | alreadyExists
  | invalidInput
  | invalidData
  | other
  deriving DecidableEq

structure IoError where
  kind : ErrorKind
  message : String
  deriving DecidableEq

/-- A failure on a file that is there. -/
structure Fault where
  error : IoError
  present : error.kind ≠ .notFound

/-- The format of the file, which the JSON library writes and reads. -/
structure Codec (β : Type) where
  toVec : StoreFile → Except String β
  fromSlice : β → Except String StoreFile
  /-- What was written is read back. -/
  reads : ∀ file bytes, toVec file = .ok bytes → fromSlice bytes = .ok file

/-- What the file system answers to the steps of one write. -/
structure DiskAnswers where
  removeFile : Except Fault Unit
  (createDirAll openTemporary writeAll syncTemporary replaceFile syncParent : Except IoError Unit)

/-- The store, and the bytes of its file if there is one. -/
structure StartupStore (β : Type) where
  state : StoreState
  disk : Option β

variable {β : Type} (codec : Codec β)
variable (disk : Option β) (answer : Except Fault Unit)

def readFile : Except IoError β :=
  match disk with
  | none => .error ⟨.notFound, "No such file or directory"⟩
  | some bytes => (answer.mapError (·.error)).map fun _ => bytes

def removeFile : Except IoError Unit × Option β :=
  match disk with
  | none => (.error ⟨.notFound, "No such file or directory"⟩, none)
  | some bytes =>
    match answer with
    | .ok _ => (.ok (), none)
    | .error fault => (.error fault.error, some bytes)

/-- The checks of a file that was read. -/
def validate (file : StoreFile) : Except IoError StoreState := do
  refuse (maxDeniedAgentIds < file.deniedAgentIds.card)
    ⟨.invalidData, "Agent denial fence limit exceeded"⟩
  refuse
    ((file.version != 1 && file.version != storeVersion) ||
      (file.version == 1 && !decide (file.deniedAgentIds = ∅)) ||
      file.entries.any (·.spec.agentId ∈ file.deniedAgentIds))
    ⟨.invalidData, "unsupported Agent startup store version " ++ toString file.version⟩
  return {
    entries := file.entries.foldl Table.put Table.empty
    deniedAgentIds := file.deniedAgentIds
    revision := 0 }

/-- A missing file is an empty store. -/
def readStore : Except IoError StoreState :=
  match readFile disk answer with
  | .error error => if error.kind = .notFound then .ok .default else .error error
  | .ok bytes => do
    let file ← (codec.fromSlice bytes).mapError fun text => ⟨.invalidData, text⟩
    validate file

/-- The file of a state. A store without denials stays readable for older versions. -/
def storeFile (state : StoreState) : StoreFile where
  version := if state.deniedAgentIds = ∅ then 1 else storeVersion
  entries := state.entries.rows.insertionSort fun left right =>
    left.spec.agentId ≤ right.spec.agentId
  deniedAgentIds := state.deniedAgentIds

/-- The steps of a write up to the replacement. -/
def writeTemporary (answers : DiskAnswers) (file : StoreFile) : Except IoError β := do
  answers.createDirAll
  let bytes ← (codec.toVec file).mapError fun text => ⟨.other, text⟩
  answers.openTemporary
  answers.writeAll
  answers.syncTemporary
  return bytes

/-- Write the file, or remove it. -/
def persist (answers : DiskAnswers) (state : StoreState) : Except IoError Unit × Option β :=
  if state.entries.rows = [] ∧ state.deniedAgentIds = ∅ then
    match removeFile disk answers.removeFile with
    | (.error error, disk) => (if error.kind = .notFound then .ok () else .error error, disk)
    | done => done
  else
    match writeTemporary codec answers (storeFile state) with
    | .error error => (.error error, disk)
    | .ok bytes =>
      match answers.replaceFile with
      | .error error => (.error error, disk)
      -- The file is replaced also when the directory cannot be synced.
      | .ok _ => (answers.syncParent, some bytes)

namespace StartupStore

variable (store : StartupStore β)

/-- Persist, then take the state over. -/
def commit (answers : DiskAnswers) (updated : StoreState) : Except IoError Unit × StartupStore β :=
  if store.state.revision + 1 < revisionLimit then
    let updated := { updated with revision := store.state.revision + 1 }
    match persist codec store.disk answers updated with
    | (.error error, disk) => (.error error, { store with disk })
    | (.ok _, disk) => (.ok (), { state := updated, disk })
  else (.error ⟨.other, "Agent startup revision exhausted"⟩, store)

/-- Open the store again, as the next Controller does. -/
def load (answer : Except Fault Unit) : Except IoError Unit × StartupStore β :=
  match readStore codec store.disk answer with
  | .ok state => (.ok (), { store with state })
  | .error error => (.error error, store)

variable (agentId : String)

def get : Option StoredAgentStartup :=
  store.state.entries.find? agentId

/-- Save an entry. -/
def upsert (entry : StoredAgentStartup) (answers : DiskAnswers) :
    Except IoError Unit × StartupStore β :=
  if entry.spec.agentId ∈ store.state.deniedAgentIds then
    (.error ⟨.permissionDenied, "Agent identity was permanently denied"⟩, store)
  else
    store.commit codec answers { store.state with entries := store.state.entries.put entry }

/-- The entries without those of an agent. -/
def without (entries : Entries) (agentId : String) : Entries :=
  entries.delete (·.spec.agentId == agentId)

/-- Remove an entry. -/
def remove (answers : DiskAnswers) : Except IoError Bool × StartupStore β :=
  match store.get agentId with
  | none => (.ok false, store)
  | some _ =>
    let (result, store) := store.commit codec answers
      { store.state with entries := without store.state.entries agentId }
    (result.map fun _ => true, store)

def fenceLimitReached : IoError where
  kind := .other
  message := "Agent denial fence limit reached"

/-- Remove an entry and deny its id. -/
def removeDeleted (answers : DiskAnswers) : Except IoError Unit × StartupStore β :=
  if agentId ∈ store.state.deniedAgentIds ∧ store.get agentId = none then (.ok (), store)
  else if agentId ∉ store.state.deniedAgentIds ∧
      maxDeniedAgentIds ≤ store.state.deniedAgentIds.card then
    (.error fenceLimitReached, store)
  else
    store.commit codec answers
      { store.state with
        entries := without store.state.entries agentId
        deniedAgentIds := insert agentId store.state.deniedAgentIds }

/-- Change an entry that is there. -/
def update (store : StartupStore β) (agentId : String)
    (mutate : StoredAgentStartup → StoredAgentStartup) (answers : DiskAnswers) :
    Except IoError Unit × StartupStore β :=
  match store.get agentId with
  | none => (.ok (), store)
  | some entry =>
    if (mutate entry).spec.agentId ≠ agentId then
      (.error ⟨.invalidInput, "Agent startup update cannot change identity"⟩, store)
    else
      store.commit codec answers
        { store.state with entries := store.state.entries.put (mutate entry) }

/-- Deny an id without an entry. -/
def denyAbsent (answers : DiskAnswers) : Except IoError Unit × StartupStore β :=
  if store.get agentId ≠ none then
    (.error ⟨.alreadyExists, "Agent startup exists"⟩, store)
  else if agentId ∈ store.state.deniedAgentIds then (.ok (), store)
  else if maxDeniedAgentIds ≤ store.state.deniedAgentIds.card then
    (.error fenceLimitReached, store)
  else
    store.commit codec answers
      { store.state with deniedAgentIds := insert agentId store.state.deniedAgentIds }

def isDenied : Bool :=
  agentId ∈ store.state.deniedAgentIds

inductive Action where
  | upsert (entry : StoredAgentStartup) (answers : DiskAnswers)
  | remove (agentId : String) (answers : DiskAnswers)
  | removeDeleted (agentId : String) (answers : DiskAnswers)
  | update (agentId : String) (mutate : StoredAgentStartup → StoredAgentStartup)
      (answers : DiskAnswers)
  | denyAbsent (agentId : String) (answers : DiskAnswers)
  | isDenied (agentId : String)
  | load (answer : Except Fault Unit)

/-- What an operation returns. -/
inductive Reply where
  | done
  | removed (found : Bool)
  | denied (answer : Bool)
  deriving DecidableEq

def step : Action → Except IoError Reply × StartupStore β
  | .upsert entry answers =>
    let (result, store) := store.upsert codec entry answers
    (result.map fun _ => .done, store)
  | .remove agentId answers =>
    let (result, store) := store.remove codec agentId answers
    (result.map .removed, store)
  | .removeDeleted agentId answers =>
    let (result, store) := store.removeDeleted codec agentId answers
    (result.map fun _ => .done, store)
  | .update agentId mutate answers =>
    let (result, store) := store.update codec agentId mutate answers
    (result.map fun _ => .done, store)
  | .denyAbsent agentId answers =>
    let (result, store) := store.denyAbsent codec agentId answers
    (result.map fun _ => .done, store)
  | .isDenied agentId => (.ok (.denied (store.isDenied agentId)), store)
  | .load answer =>
    let (result, store) := store.load codec answer
    (result.map fun _ => .done, store)

end StartupStore
end Treer.Startup
