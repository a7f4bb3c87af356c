import KnowledgeSchema.Proofs.Program.Laws

/-!
# Operations that pass failures on

An operation that only reads goes on until a call of the store fails, and then fails with it. It has
no failure of its own.
-/

namespace KnowledgeSchema

/-- The failure that a request was answered with. -/
def Request.failure? : (r : Request) → r.Answer → Option Failure
  | .store .., .error failure => some failure
  | _, _ => none

variable {α β : Type} {allowed : Request → Prop}

namespace Program

/-- A program that makes only requests that are allowed, and fails just when a call of the store
does, with the same failure. -/
def Relays (allowed : Request → Prop) : Program (Except Failure α) → Prop
  | .done outcome => ∃ value, outcome = .ok value
  | .request r next => allowed r ∧ ∀ answer,
    (∀ failure, r.failure? answer = some failure → next answer = .done (.error failure)) ∧
      (r.failure? answer = none → (next answer).Relays allowed)

theorem Relays.bind {program : Program (Except Failure α)} {next : α → Operation β}
    (hrelays : program.Relays allowed) (hnext : ∀ value, (next value).run.Relays allowed) :
    (program.bind (Operation.proceed next)).Relays allowed := by
  induction program with
  | done outcome =>
    obtain ⟨value, rfl⟩ := hrelays
    exact hnext value
  | request r further ih =>
    refine ⟨hrelays.1, fun answer => ⟨fun failure hfailure => ?_, fun hnone => ?_⟩⟩
    · exact congrArg (Program.bind · (Operation.proceed next))
        ((hrelays.2 answer).1 failure hfailure)
    · exact ih answer ((hrelays.2 answer).2 hnone)

end Program

namespace Operation

@[irreducible]
def Relays (allowed : Request → Prop) (operation : Operation α) : Prop :=
  operation.run.Relays allowed

theorem relays_iff {operation : Operation α} :
    Relays allowed operation ↔ operation.run.Relays allowed := by
  rw [Relays]

theorem relays_pure (value : α) : Relays allowed (pure value : Operation α) :=
  relays_iff.mpr ⟨value, rfl⟩

theorem Relays.bind {operation : Operation α} {next : α → Operation β}
    (hoperation : Relays allowed operation) (hnext : ∀ value, Relays allowed (next value)) :
    Relays allowed (operation >>= next) := by
  rw [relays_iff, run_bind]
  exact (relays_iff.mp hoperation).bind fun value => relays_iff.mp (hnext value)

theorem Relays.map {operation : Operation α} (f : α → β) (hoperation : Relays allowed operation) :
    Relays allowed (f <$> operation) := by
  rw [← bind_pure_comp]
  exact hoperation.bind fun value => relays_pure (f value)

theorem relays_callWithin {limit : Option Nat} {call : Store.Call}
    (hcall : allowed (.store call limit)) : Relays allowed (callWithin limit call) := by
  refine relays_iff.mpr ⟨hcall, fun answer => ⟨?_, ?_⟩⟩
  · rintro failure hfailure
    cases answer with
    | ok value => cases hfailure
    | error other =>
      cases hfailure
      rfl
  · intro hnone
    cases answer with
    | ok value => exact ⟨value, rfl⟩
    | error other => cases hnone

theorem relays_freshIds {count : Nat} (hfresh : allowed (.freshIds count)) :
    Relays allowed (freshIds count) :=
  relays_iff.mpr ⟨hfresh, fun ids => ⟨fun _ hnone => (by cases hnone), fun _ => ⟨ids, rfl⟩⟩⟩

theorem relays_now (hnow : allowed .now) : Relays allowed now :=
  relays_iff.mpr ⟨hnow, fun time => ⟨fun _ hnone => (by cases hnone), fun _ => ⟨time, rfl⟩⟩⟩

theorem relays_mapM {f : α → Operation β} (hf : ∀ item, Relays allowed (f item))
    (items : List α) : Relays allowed (items.mapM f) := by
  induction items with
  | nil => exact relays_pure []
  | cons item rest ih =>
    rw [List.mapM_cons]
    exact (hf item).bind fun first => ih.bind fun others => relays_pure (first :: others)

theorem relays_mapM_option {f : α → Operation β} (hf : ∀ item, Relays allowed (f item))
    (item? : Option α) : Relays allowed (item?.mapM f) := by
  cases item? with
  | none => exact relays_pure none
  | some item => exact (hf item).map some

/-- Reading the content of a version is calls of the store and nothing else. -/
theorem relays_readContent {limit : Option Nat}
    (hcall : ∀ call : Store.Call, call.isChange = false → allowed (.store call limit))
    (versionId : String) : Relays allowed (readContent limit versionId) := by
  have hread : ∀ {call : Store.Call}, call.isChange = false →
      Relays allowed (callWithin limit call) := fun hquery => relays_callWithin (hcall _ hquery)
  have hfields : ∀ type, Relays allowed (withFields limit type) := fun type =>
    (hread rfl).bind fun fields => relays_pure (type, fields)
  have hattributes : ∀ relationship, Relays allowed (withAttributes limit relationship) :=
    fun relationship => (hread rfl).bind fun attributes => relays_pure (relationship, attributes)
  have hlists : ∀ profile, Relays allowed (withLists limit profile) := fun profile =>
    (hread rfl).bind fun _ => (hread rfl).bind fun _ => relays_pure _
  refine (hread rfl).bind fun types => (relays_mapM hfields types).bind fun _ => ?_
  refine (hread rfl).bind fun relationships => (relays_mapM hattributes relationships).bind
    fun _ => ?_
  refine (hread rfl).bind fun _ => (hread rfl).bind fun _ => (hread rfl).bind fun profile => ?_
  exact (relays_mapM_option hlists profile).bind fun _ => relays_pure _

end Operation

end KnowledgeSchema
