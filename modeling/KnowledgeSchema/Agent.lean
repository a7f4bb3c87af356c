import KnowledgeSchema.Artifact.Basic
import KnowledgeSchema.Blueprint.Event

/-!
# Agents

What whoever carries out operations remembers between them: the latest events, and the artifacts
kept for versions.
-/

namespace KnowledgeSchema

def defaultCapacity : Nat :=
  512

structure Agent where
  /-- The number of events remembered. -/
  capacity : Nat := defaultCapacity
  /-- Oldest first. -/
  events : List Event := []
  kept : List (String × Artifact) := []

namespace Agent

/-- An agent without memories that will remember so many events, at least one. -/
def new (capacity : Nat) : Agent :=
  { capacity := max capacity 1 }

/-- Adds an event. The oldest ones make room. -/
def record (agent : Agent) (event : Event) : Agent :=
  { agent with
    events := agent.events.drop (agent.events.length + 1 - agent.capacity) ++ [event] }

def clearEvents (agent : Agent) : Agent :=
  { agent with events := [] }

def fetch (agent : Agent) (versionId : String) : Option Artifact :=
  agent.kept.lookup versionId

def evict (agent : Agent) (versionId : String) : Agent :=
  { agent with kept := agent.kept.filter (·.1 != versionId) }

/-- Keeps an artifact for its version in the place of another one. -/
def keep (agent : Agent) (artifact : Artifact) : Agent :=
  { agent with kept := (artifact.version.id, artifact) :: (agent.evict artifact.version.id).kept }

def evictAll (agent : Agent) : Agent :=
  { agent with kept := [] }

end Agent

end KnowledgeSchema
