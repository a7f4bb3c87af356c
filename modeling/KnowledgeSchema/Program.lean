import KnowledgeSchema.Artifact.Basic
import KnowledgeSchema.Blueprint.Event
import KnowledgeSchema.Bundle.Resolve
import KnowledgeSchema.Store.Call

/-!
# Programs

An operation on blueprints as the requests that it makes, one after another, to whatever carries it
out. Between two requests of one program those of others may be carried out.
-/

namespace KnowledgeSchema

inductive Request where
  /-- A call of the store, given up after so many milliseconds. -/
  | store (call : Store.Call) (limit : Option Nat)
  /-- Ids that were never given out before. Only the first `count` of them are taken. -/
  | freshIds (count : Nat)
  | now
  /-- An entry in the event log. -/
  | record (event : Event)
  /-- The artifact kept for a version. -/
  | fetch (versionId : String)
  | keep (artifact : Artifact)
  | evict (versionId : String)

/-- What a request is answered with. -/
abbrev Request.Answer : Request → Type
  | .store call _ => Except Failure call.Result
  | .freshIds _ => Ids
  | .now => Timestamp
  | .record _ => Unit
  | .fetch _ => Option Artifact
  | .keep _ => Unit
  | .evict _ => Unit

inductive Program (α : Type) where
  | done (value : α)
  | request (request : Request) (next : request.Answer → Program α)

namespace Program

variable {α β : Type}

def bind (program : Program α) (next : α → Program β) : Program β :=
  match program with
  | done value => next value
  | request r further => request r fun answer => (further answer).bind next

instance : Monad Program where
  pure := done
  bind := bind

def ask (r : Request) : Program r.Answer :=
  request r done

/-- Carries a program out, each request by `handle`. -/
def run {m : Type → Type} [Monad m] (handle : (r : Request) → m r.Answer) : Program α → m α
  | done value => pure value
  | request r next => do
    let answer ← handle r
    (next answer).run handle

end Program

/-- A program that may fail. -/
abbrev Operation :=
  ExceptT Failure Program

namespace Operation

/-- A call that is given up after so many milliseconds. -/
def callWithin (limit : Option Nat) (call : Store.Call) : Operation call.Result :=
  Program.ask (.store call limit)

def call (call : Store.Call) : Operation call.Result :=
  callWithin none call

/-- A call whose failure is an answer like any other. -/
def attempt (call : Store.Call) : Operation (Except Failure call.Result) :=
  ExceptT.lift (Program.ask (.store call none))

def freshIds (count : Nat) : Operation Ids :=
  ExceptT.lift (Program.ask (.freshIds count))

def freshId : Operation String := do
  let ids ← freshIds 1
  return ids 0

def now : Operation Timestamp :=
  ExceptT.lift (Program.ask .now)

def record (event : Event) : Operation Unit :=
  ExceptT.lift (Program.ask (.record event))

def fetch (versionId : String) : Operation (Option Artifact) :=
  ExceptT.lift (Program.ask (.fetch versionId))

def keep (artifact : Artifact) : Operation Unit :=
  ExceptT.lift (Program.ask (.keep artifact))

def evict (versionId : String) : Operation Unit :=
  ExceptT.lift (Program.ask (.evict versionId))

/-- The outcome of a call that takes `delay` milliseconds and is given up after `limit`. -/
def withTimeout {α : Type} (limit : Option Nat) (operation : String) (delay : Nat)
    (outcome : Except Failure α) : Except Failure α :=
  match limit with
  | none => outcome
  | some limit =>
    if limit < delay then .error (.storeTimeout operation (limit / 1000)) else outcome

end Operation

end KnowledgeSchema
