import KnowledgeSchema.Proofs.Artifact.Coverage
import KnowledgeSchema.Proofs.Artifact.Navigation
import KnowledgeSchema.Proofs.Artifact.Portable
import KnowledgeSchema.Proofs.Program.Portable

/-!
# Artifacts read from their documents

What is compiled from a store that calls of services have filled is read from its own document, but
for the positions of parents and children. Those are worked out again, and the fingerprint holds.
-/

namespace KnowledgeSchema

open Json

/-! ### Documents of portable artifacts -/

namespace Artifact

variable {artifact : Artifact}

theorem IsPortable.isSteady {depth : Nat} (hportable : artifact.IsPortable depth)
    (hprinted : ∀ x ∈ (codec.encode artifact).doubles, x.isFinite = true → ReadsBack x) :
    (codec.encode artifact).IsSteady :=
  fun x hx => hprinted x hx (hportable.writesFinite x hx)

theorem IsPortable.parse_write (hportable : artifact.IsPortable validationDepth)
    (hsteady : (codec.encode artifact).IsSteady) :
    codec.parse (codec.write artifact) = .ok artifact.detached := by
  have hrereads : codec.Rereads maxDepth artifact.detached := hportable.rereads
  have hwrite : codec.write artifact.detached = codec.write artifact := by
    rw [Codec.write, Codec.write, artifact.encode_detached]
  rw [← artifact.encode_detached] at hsteady
  rw [← hwrite]
  exact hrereads.parse_write hsteady

/-- The document of an artifact that was compiled says all there is to it. -/
theorem IsPortable.survives (hportable : artifact.IsPortable validationDepth)
    (hsteady : (codec.encode artifact).IsSteady) (hverified : artifact.isVerified = true)
    (hrebuilt : artifact.rebuildNavigation = artifact) :
    ∃ read, codec.parse (codec.write artifact) = .ok read ∧ read.isVerified = true ∧
      read.rebuildNavigation = artifact ∧ read.rebuildNavigation.isVerified = true := by
  refine ⟨artifact.detached, hportable.parse_write hsteady, ?_, ?_, ?_⟩
  · rw [isVerified_detached, hverified]
  · rw [rebuildNavigation_detached, hrebuilt]
  · rw [isVerified_rebuildNavigation, isVerified_detached, hverified]

end Artifact

/-! ### Compiled artifacts -/

namespace System

variable {actions : List Action}

/-- Bundles that are read from texts are all that is imported. -/
def ImportsTexts (actions : List Action) : Prop :=
  ∀ agent versionId bundle, Action.begin agent (.importBundle versionId bundle) ∈ actions →
    ∃ text, Bundle.codec.parse text = .ok bundle

theorem ImportsTexts.isPortable (himports : ImportsTexts actions) :
    ∀ agent command, Action.begin agent command ∈ actions → command.IsPortable validationDepth := by
  intro agent command hbegin
  cases command with
  | importBundle versionId bundle =>
    obtain ⟨text, hparse⟩ := himports agent versionId bundle hbegin
    exact Bundle.isPortable_of_parse hparse
  | _ => trivial

/-- A store is filled by calls of services in whatever order their requests come. A version that is
compiled then survives its own document, if each finite double in it is read back from its own text. -/
theorem parse_write_of_compile (himports : ImportsTexts actions) (ids : Ids)
    (clock : Nat → Timestamp) (capacity : Nat → Nat) {world : World}
    (hstore : world.store = ((start {} ids clock capacity).run actions).store) (agent : Agent)
    (maxDepth : UInt64) (limit : Option Nat) (versionId : String) {artifact : Artifact}
    (hcompile : (world.perform agent (Operation.compile maxDepth limit versionId)).1 = .ok artifact)
    (hprinted : ∀ x ∈ (Artifact.codec.encode artifact).doubles, x.isFinite = true → ReadsBack x) :
    ∃ read, Artifact.codec.parse (Artifact.codec.write artifact) = .ok read ∧
      read.isVerified = true ∧ read.rebuildNavigation = artifact ∧
        read.rebuildNavigation.isVerified = true := by
  have hworld : world.store.IsPortable validationDepth :=
    hstore ▸ portable_run himports.isPortable ids clock capacity
  obtain ⟨content, blueprint, version, hcontent, rfl⟩ :=
    hold_portableTerms.perform (Operation.meets_compile maxDepth limit versionId) hworld hcompile
  have hportable := hcontent.assemble blueprint version maxDepth
  exact hportable.survives (hportable.isSteady hprinted)
    (content.isVerified_assemble blueprint version maxDepth)
    (content.rebuildNavigation_assemble blueprint version maxDepth)

/-- A type that is its own parent, with a number in the validation of its one field. -/
def shipText : String :=
  "\x7b\"entity_types\":[\x7b\"entity_kind\":\"ship\",\"parent\":\"SHIP\",\"fields\":" ++
    "[\x7b\"name\":\"crew\",\"data_type\":\"number\",\"validation\":0.5\x7d]\x7d]\x7d"

/-- A blueprint, a draft of it and an import into the draft, one after another. -/
def filling (bundle : Bundle) : List Action :=
  .begin 0 (.createBlueprint "Novel" none [] false) :: List.replicate 5 (.advance 0) ++
    .begin 0 (.createDraft "x") :: List.replicate 7 (.advance 1) ++
    .begin 0 (.importBundle "xx" bundle) :: List.replicate 3 (.advance 2)

theorem importsTexts_filling {bundle : Bundle} (hparse : Bundle.codec.parse shipText = .ok bundle) :
    ImportsTexts (filling bundle) := by
  intro agent versionId other hbegin
  have hsame : other = bundle := by
    simp only [filling, List.mem_append, List.mem_cons, List.mem_replicate, Action.begin.injEq,
      Command.importBundle.injEq, reduceCtorEq, and_false, false_or, or_false] at hbegin
    exact hbegin.2.2
  exact ⟨shipText, hsame ▸ hparse⟩

theorem parse_write_of_compile_ship :
    ∃ bundle artifact, Bundle.codec.parse shipText = .ok bundle ∧ ImportsTexts (filling bundle) ∧
      ((fresh.run (filling bundle)).scene.world.perform {} (Operation.compile 10 none "xx")).1 =
        .ok artifact ∧
      (∀ x ∈ (Artifact.codec.encode artifact).doubles, x.isFinite = true → ReadsBack x) ∧
      (Artifact.codec.encode artifact).doubles = [.half] ∧ artifact.diagnostics.length = 1 ∧
      ∃ read, Artifact.codec.parse (Artifact.codec.write artifact) = .ok read ∧
        read.isVerified = true ∧ read.rebuildNavigation = artifact ∧
          read.rebuildNavigation.isVerified = true := by
  have hshown : ((Bundle.codec.parse shipText).toOption.bind fun bundle =>
      ((fresh.run (filling bundle)).scene.world.perform {}
        (Operation.compile 10 none "xx")).1.toOption.map fun artifact =>
          ((Artifact.codec.encode artifact).doubles, artifact.diagnostics.length)) =
      some ([.half], 1) := by
    decide +kernel
  obtain ⟨bundle, hparse, hcompiled⟩ := Option.bind_eq_some_iff.mp hshown
  obtain ⟨artifact, hcompile, hfacts⟩ := Option.map_eq_some_iff.mp hcompiled
  rw [Outcome.toOption_eq_some] at hparse hcompile
  obtain ⟨hdoubles, hdiagnostics⟩ := Prod.mk.inj hfacts
  have himports := importsTexts_filling hparse
  have hprinted : ∀ x ∈ (Artifact.codec.encode artifact).doubles,
      x.isFinite = true → ReadsBack x := by
    rw [hdoubles]
    decide +kernel
  exact ⟨bundle, artifact, hparse, himports, hcompile, hprinted, hdoubles, hdiagnostics,
    parse_write_of_compile himports _ _ _ rfl _ _ _ _ hcompile hprinted⟩

end System

end KnowledgeSchema
