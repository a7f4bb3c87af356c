import KnowledgeSchema.Proofs.Commands.Opening
import KnowledgeSchema.Proofs.Settings.Documents
import KnowledgeSchema.Settings.Keeping

/-!
# Settings that can be kept

Settings start from the defaults and are changed call by call. A call that is refused changes
nothing, and what the others lead to is in range. Where a file can be written it can be saved, and is
what is loaded from there, as long as the limit for calls of the store fits in 64 bits with a sign. A
longer limit can be set, but the settings cannot be saved with it.
-/

namespace KnowledgeSchema.Settings

open Toml

variable {settings changed : Settings} {calls : List (String × String)} {disk made after : Disk}
  {path key value : String}

/-! ### Settings in range -/

theorem validate_eq_ok :
    settings.validate = .ok () ↔ isDepth settings.compiler.maxDepth = true := by
  unfold validate
  split_ifs with hdepth
  · exact iff_of_true rfl hdepth
  · exact iff_of_false (by simp) hdepth

theorem isDepth_of_change {setting : Setting} (hdepth : isDepth settings.compiler.maxDepth = true)
    (hchange : settings.change setting value = .ok changed) :
    isDepth changed.compiler.maxDepth = true := by
  cases setting with
  | maxDepth =>
    obtain ⟨depth, -, hset⟩ := Outcome.bind_eq_ok.mp hchange
    split_ifs at hset with hrange
    cases hset
    exact hrange
  | storeTimeout =>
    obtain ⟨seconds, -, hset⟩ := Outcome.bind_eq_ok.mp hchange
    cases hset
    exact hdepth
  | keepsPublished =>
    obtain ⟨keeps, -, hset⟩ := Outcome.bind_eq_ok.mp hchange
    cases hset
    exact hdepth
  | database =>
    cases hchange
    exact hdepth

theorem isDepth_of_set (hdepth : isDepth settings.compiler.maxDepth = true)
    (hset : settings.set key value = .ok changed) : isDepth changed.compiler.maxDepth = true := by
  obtain ⟨setting, -, hchange⟩ := Outcome.bind_eq_ok.mp hset
  exact isDepth_of_change hdepth hchange

/-! ### Calls -/

/-- The settings after a key was set to a value, which are the same ones if that is refused. -/
def afterCall (settings : Settings) (call : String × String) : Settings :=
  match settings.set call.1 call.2 with
  | .ok changed => changed
  | .error _ => settings

/-- What one call after the other makes of the default settings. -/
def afterCalls (calls : List (String × String)) : Settings :=
  calls.foldl afterCall {}

theorem afterCall_of_error {call : String × String} {flaw : Flaw}
    (hset : settings.set call.1 call.2 = .error flaw) : settings.afterCall call = settings := by
  rw [afterCall, hset]

theorem isDepth_afterCall (hdepth : isDepth settings.compiler.maxDepth = true)
    (call : String × String) : isDepth (settings.afterCall call).compiler.maxDepth = true := by
  unfold afterCall
  split
  next hset => exact isDepth_of_set hdepth hset
  next => exact hdepth

theorem isDepth_afterCalls (calls : List (String × String)) :
    isDepth (afterCalls calls).compiler.maxDepth = true := by
  have hdefault : isDepth (compiler {}).maxDepth = true := by decide
  refine List.foldlRecOn (motive := fun settings => isDepth settings.compiler.maxDepth = true)
    calls afterCall hdefault fun settings hdepth call _ => ?_
  exact isDepth_afterCall hdepth call

/-! ### Saving and loading -/

theorem isSome_writeCount_of_isDepth {depth : UInt64} (hdepth : isDepth depth = true) :
    (writeCount depth).isSome := by
  rw [isDepth, Bool.and_eq_true, decide_eq_true_eq, decide_eq_true_eq, UInt64.le_iff_toNat_le,
    UInt64.le_iff_toNat_le] at hdepth
  exact isSome_writeCount.mpr (hdepth.2.trans (by decide))

/-- Saving the settings succeeds, and then they are what is loaded. -/
def IsKept (settings : Settings) (disk : Disk) (path : String) : Prop :=
  ∃ kept, settings.save disk path = (.ok (), kept) ∧ load kept path = .ok settings

theorem load_of_write {text : List Char} (hvalid : settings.validate = .ok ())
    (hwrite : settings.write = some text)
    (hfile : disk.write path (String.ofList text) = .ok after) :
    load after path = .ok settings := by
  obtain ⟨hthere, hread⟩ := Disk.read_write hfile
  rw [load, hthere, hread]
  dsimp only
  rw [read?_write hwrite]
  dsimp only
  rw [hvalid]
  rfl

theorem save_of_write (htakes : disk.Takes path) (hvalid : settings.validate = .ok ())
    (hwrite : settings.write.isSome) : settings.IsKept disk path := by
  obtain ⟨text, htext⟩ := Option.isSome_iff_exists.mp hwrite
  obtain ⟨made, other, between, hparent, hother⟩ := htakes
  obtain ⟨after, hafter⟩ := Disk.exists_write hother (String.ofList text)
  have hwriteTo : settings.writeTo made path = .ok after := by
    rw [writeTo, htext]
    dsimp only
    rw [hafter]
    rfl
  refine ⟨after, ?_, load_of_write hvalid htext hafter⟩
  unfold save
  rw [hvalid, hparent]
  dsimp only
  rw [hwriteTo]

/-- Settings that there is no document for are not saved. -/
theorem save_of_noText (htakes : disk.Takes path) (hvalid : settings.validate = .ok ())
    (hwrite : ¬settings.write.isSome) : (settings.save disk path).1 = .error .noText := by
  obtain ⟨made, -, -, hparent, -⟩ := htakes
  have hwriteTo : settings.writeTo made path = .error .noText := by
    rw [writeTo, Option.not_isSome_iff_eq_none.mp hwrite]
  unfold save
  rw [hvalid, hparent]
  dsimp only
  rw [hwriteTo]

/-- The longest limit for calls of the store that a document can hold. -/
def longestTimeout : UInt64 :=
  9223372036854775807

theorem isSome_write_afterCalls : (afterCalls calls).write.isSome ↔
    (afterCalls calls).compiler.storeTimeout ≤ longestTimeout := by
  rw [isSome_write, and_iff_right (isSome_writeCount_of_isDepth (isDepth_afterCalls calls))]
  exact isSome_writeCount

/-! ### Whatever is set can be kept -/

/-- A call that is refused changes nothing, and the settings that the calls lead to are in range and
can be kept. -/
structure CanBeKept (calls : List (String × String)) (disk : Disk) (path : String) : Prop where
  refused : ∀ before call flaw, before ++ [call] <+: calls →
    (afterCalls before).set call.1 call.2 = .error flaw →
    afterCalls (before ++ [call]) = afterCalls before
  valid : (afterCalls calls).validate = .ok ()
  kept : (afterCalls calls).IsKept disk path

theorem afterCalls_of_error {before : List (String × String)} {call : String × String} {flaw : Flaw}
    (hset : (afterCalls before).set call.1 call.2 = .error flaw) :
    afterCalls (before ++ [call]) = afterCalls before := by
  rw [afterCalls, List.foldl_append]
  exact afterCall_of_error hset

/-- Where a file can be written, whatever is set can be kept as long as the limit for calls of the
store is not too long for the document. If it is, the settings are in range but are not saved. -/
theorem canBeKept_afterCalls (htakes : disk.Takes path) :
    ((afterCalls calls).compiler.storeTimeout ≤ longestTimeout → CanBeKept calls disk path) ∧
      (longestTimeout < (afterCalls calls).compiler.storeTimeout →
        (afterCalls calls).validate = .ok () ∧
          ((afterCalls calls).save disk path).1 = .error .noText) := by
  have hvalid := validate_eq_ok.mpr (isDepth_afterCalls calls)
  constructor
  · intro hfits
    exact ⟨fun _ _ _ _ => afterCalls_of_error, hvalid,
      save_of_write htakes hvalid (isSome_write_afterCalls.mpr hfits)⟩
  · intro hlong
    have hnone := mt isSome_write_afterCalls.mp (UInt64.not_le.mpr hlong)
    exact ⟨hvalid, save_of_noText htakes hvalid hnone⟩

/-! ### The longest limit and the next one -/

/-- A file can be written on a disk with nothing on it. -/
theorem takes_blank : Disk.Takes {} "c" := by
  have hsplit : "c".splitOn "/" = ["c"] := by
    apply Disk.splitOn_of_single <;> decide +kernel
  have habove : Path.above? "c" = some { head := "", pieces := [] } :=
    Disk.above?_of_single hsplit (by decide +kernel) (by decide +kernel) (by decide)
  have hmade : Disk.makeParent {} "c" = (.ok (), {}) := by
    rw [Disk.makeParent, habove]
    rfl
  have hfind : Disk.find {} "c" = .ok ["c"] := by
    have hstart : Disk.origin {} "c" = [] := by decide +kernel
    rw [Disk.find, if_neg (by simp), if_neg (by decide), if_neg (by decide +kernel),
      Disk.names_of_single hsplit (by decide), hstart]
    rfl
  refine ⟨{}, "", _, hmade, Disk.write_eq_ok.mpr ⟨["c"], hfind, by decide +kernel, ?_, rfl⟩⟩
  rintro ⟨⟩

/-- The longest limit is kept, with a path in quotes, and a call that is refused does no harm. -/
theorem canBeKept_afterCalls_longest :
    Disk.Takes {} "c" ∧
      CanBeKept [("compiler.store_timeout_secs", "9223372036854775807"),
        ("compiler.max_inheritance_depth", "65"), ("database.path", " \"a\"/b ")] {} "c" :=
  ⟨takes_blank, (canBeKept_afterCalls takes_blank).1 (by decide +kernel)⟩

/-- The limit after the longest one can be set but not saved. -/
theorem not_canBeKept_tooLong :
    Disk.Takes {} "c" ∧
      ¬CanBeKept [("compiler.store_timeout_secs", "9223372036854775808")] {} "c" := by
  have hlong : ¬(afterCalls [("compiler.store_timeout_secs",
      "9223372036854775808")]).compiler.storeTimeout ≤ longestTimeout := by decide +kernel
  have hwrite := mt isSome_write_afterCalls.mp hlong
  refine ⟨takes_blank, fun hkept => ?_⟩
  obtain ⟨kept, hsave, -⟩ := hkept.kept
  have hflaw := save_of_noText takes_blank hkept.valid hwrite
  rw [hsave] at hflaw
  cases hflaw

end KnowledgeSchema.Settings
