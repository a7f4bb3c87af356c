import KnowledgeSchema.Disk.Basic
import KnowledgeSchema.Proofs.Program.Outcome

/-!
# Files read where they were written

A text that is put at a place leaves the directories on the way there as they were, so the same path
leads to it afterwards.
-/

namespace KnowledgeSchema

namespace Disk

variable {disk made after : Disk} {here there place : List String} {path name content : String}
  {item : DiskItem}

/-! ### Places -/

theorem lookup_filter_of_ne {items : List (List String × DiskItem)} {other : List String}
    (hother : other ≠ place) :
    (items.filter (·.1 != place)).lookup other = items.lookup other := by
  induction items with
  | nil => rfl
  | cons entry rest ih =>
    obtain ⟨key, item⟩ := entry
    by_cases hkey : key = place
    · have hmiss : (other == key) = false := beq_false_of_ne fun heq => hother (heq.trans hkey)
      rw [List.filter_cons_of_neg (by simpa using hkey), ih, List.lookup_cons, hmiss]
    · rw [List.filter_cons_of_pos (by simpa using hkey), List.lookup_cons, List.lookup_cons, ih]

theorem item?_put_self (disk : Disk) (place : List String) (item : DiskItem) :
    (disk.put place item).item? place = some item := by
  rw [item?, put, List.lookup_cons_self]

/-- A directory stays one when something is put at another place. -/
theorem item?_put_directory (hne : here ≠ place) (hhere : disk.item? here = some .directory) :
    (disk.put place item).item? here = some .directory := by
  have hmiss : (here == place) = false := beq_false_of_ne hne
  have hlookup : (disk.put place item).items.lookup here = disk.items.lookup here := by
    rw [put, List.lookup_cons, hmiss]
    exact lookup_filter_of_ne hne
  rw [item?] at hhere ⊢
  rw [hlookup]
  split at hhere
  next => exact hhere
  next =>
    split_ifs at hhere with hway
    refine if_pos ?_
    rw [Bool.or_eq_true, List.any_eq_true] at hway ⊢
    rcases hway with hroot | ⟨entry, hentry, hprefix⟩
    · exact Or.inl hroot
    · by_cases hplace : entry.1 = place
      · exact Or.inr ⟨(place, item), List.mem_cons_self, hplace ▸ hprefix⟩
      · have hkept : entry ∈ disk.items.filter (·.1 != place) :=
          List.mem_filter.mpr ⟨hentry, by simpa using hplace⟩
        exact Or.inr ⟨entry, List.mem_cons_of_mem _ hkept, hprefix⟩

theorem enter_put (hplace : disk.item? place ≠ some .directory)
    (henter : disk.enter here name = .ok there) :
    (disk.put place item).enter here name = .ok there := by
  unfold enter at henter ⊢
  split at henter
  next => cases henter
  next hhere =>
    have hne : here ≠ place := by
      rintro rfl
      exact hplace hhere
    rw [item?_put_directory hne hhere]
    exact henter
  next => cases henter

theorem find_put (hplace : disk.item? place ≠ some .directory)
    (hfind : disk.find path = .ok there) :
    (disk.put place item).find path = .ok there := by
  have hways : ∀ (names : List String) here, names.foldlM disk.enter here = .ok there →
      names.foldlM (disk.put place item).enter here = .ok there := by
    intro names
    induction names with
    | nil => exact fun _ hhere => hhere
    | cons name names ih =>
      intro here hnames
      rw [List.foldlM_cons, Outcome.bind_eq_ok] at hnames ⊢
      obtain ⟨next, hnext, hrest⟩ := hnames
      exact ⟨next, enter_put hplace hnext, ih next hrest⟩
  unfold find at hfind ⊢
  split_ifs at hfind ⊢
  exact hways _ _ hfind

/-! ### Files -/

theorem write_eq_ok : disk.write path content = .ok after ↔
    ∃ place, disk.find path = .ok place ∧ path.endsWith "/" = false ∧
      disk.item? place ≠ some .directory ∧ after = disk.put place (.text content) := by
  rw [write, Outcome.bind_eq_ok]
  refine exists_congr fun place => and_congr_right fun _ => ?_
  split_ifs with hslash
  · simp [hslash]
  · split
    next heq => simp [heq]
    next hne =>
      constructor
      · rintro ⟨⟩
        exact ⟨by simpa using hslash, hne, rfl⟩
      · rintro ⟨-, -, rfl⟩
        rfl

theorem look_write (hwrite : disk.write path content = .ok after) :
    after.look path = .ok (.text content) := by
  obtain ⟨place, hfind, hslash, hplace, rfl⟩ := write_eq_ok.mp hwrite
  rw [look, Outcome.bind_eq_ok]
  refine ⟨place, find_put hplace hfind, ?_⟩
  rw [item?_put_self]
  simp [hslash]

theorem read_write (hwrite : disk.write path content = .ok after) :
    after.isThere path = true ∧ after.read path = .ok content := by
  have hlook := look_write hwrite
  constructor
  · rw [isThere, hlook]
    rfl
  · rw [read, hlook]
    rfl

/-- Whether a file can be written does not depend on its text. -/
theorem exists_write {other : String} (hwrite : disk.write path other = .ok made)
    (content : String) : ∃ after, disk.write path content = .ok after := by
  obtain ⟨place, hfind, hslash, hplace, -⟩ := write_eq_ok.mp hwrite
  exact ⟨_, write_eq_ok.mpr ⟨place, hfind, hslash, hplace, rfl⟩⟩

/-- A file can be written at a path once the directory for it is made. -/
def Takes (disk : Disk) (path : String) : Prop :=
  ∃ made content after, disk.makeParent path = (.ok (), made) ∧ made.write path content = .ok after

/-! ### Paths of one character -/

/-- A text of one character is its only piece, unless the character is a slash. -/
theorem splitOn_of_single {text : String} (hstart : String.Pos.Raw.atEnd text 0 = false)
    (hslash : (String.Pos.Raw.get text 0 == String.Pos.Raw.get "/" 0) = false)
    (hend : String.Pos.Raw.atEnd text (String.Pos.Raw.next text 0) = true)
    (hwhole : String.Pos.Raw.extract text 0 (String.Pos.Raw.next text 0) = text) :
    text.splitOn "/" = [text] := by
  rw [String.splitOn, if_neg (by decide), String.splitOnAux, if_neg (by rw [hstart]; decide),
    if_neg (by rw [hslash]; decide), String.splitOnAux, String.Pos.Raw.unoffsetBy_zero,
    if_pos hend, hwhole]
  rfl

theorem names_of_single (hsplit : path.splitOn "/" = [path]) (hsome : path ≠ "") :
    names path = [path] := by
  simp [names, hsplit, hsome]

/-- What is above the path of one name is the directory that it starts from. -/
theorem above?_of_single (hsplit : path.splitOn "/" = [path]) (hhead : Path.headOf path = "")
    (hwhole : (path.drop 0).copy = path) (hidle : Path.isIdle path = false) :
    Path.above? path = some { head := "", pieces := [] } := by
  have hpath : Path.ofText path = { head := "", pieces := [path] } := by
    simp [Path.ofText, hhead, hwhole, hsplit, Path.trim, hidle]
  rw [Path.above?, hpath]
  rfl

end Disk

end KnowledgeSchema
