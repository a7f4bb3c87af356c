import KnowledgeSchema.Proofs.Json.Walks
import KnowledgeSchema.Proofs.Json.Shaped

/-!
# What closed records take

A closed record takes an object with its fields in any order, each once at most, and nothing else, or
an array of its fields in declared order. Fields with a fallback may be left out.
-/

namespace KnowledgeSchema

open Json

namespace Fields

variable {ρ σ τ : Type} {fields : Fields ρ σ τ} {parts : Parts} {make : τ} {slots after : fields.Slots}
  {name other wanted : String} {depth index fuel : Nat} {first : Bool} {input rest left : List Char}
  {tree : Json} {trees all items : List Json} {members found : List (String × Json)}

/-- The fields of a record are its parts: each has its name and shape, and is required where there is
nothing that stands for it when it is left out. -/
inductive HasParts {ρ σ : Type} : {τ : Type} → Fields ρ σ τ → Parts → Prop where
  | done : HasParts .done .done
  | field {α τ : Type} {name : String} {codec : Codec α} {get : ρ → α} {fallback : Option α}
    {rest : Fields ρ σ τ} {isRequired : Bool} {shape : Shape} {parts : Parts}
    (hcodec : codec.HasShape shape) (hfallback : fallback.isSome = !isRequired)
    (habsent : isRequired = true → codec.absent = none) (hrest : HasParts rest parts) :
    HasParts (.field name codec get fallback rest) (.part name isRequired shape parts)

theorem HasParts.required {α τ : Type} {name : String} {codec : Codec α} {get : ρ → α}
    {rest : Fields ρ σ τ} {shape : Shape} (hcodec : codec.HasShape shape)
    (habsent : codec.absent = none) (hrest : HasParts rest parts) :
    HasParts (.field name codec get none rest) (.part name true shape parts) :=
  .field hcodec rfl (fun _ => habsent) hrest

theorem HasParts.defaulted {α τ : Type} {name : String} {codec : Codec α} {get : ρ → α} {value : α}
    {rest : Fields ρ σ τ} {shape : Shape} (hcodec : codec.HasShape shape)
    (hrest : HasParts rest parts) :
    HasParts (.field name codec get (some value) rest) (.part name false shape parts) :=
  .field hcodec rfl nofun hrest

theorem HasParts.names_eq (hparts : fields.HasParts parts) : fields.names = parts.names := by
  induction hparts with
  | done => rfl
  | field hcodec hfallback habsent hrest ih => rw [names, Parts.names, ih]

/-! ### One field -/

/-- Reading the value of a field marks that field as read and no other one. -/
theorem isRead_readInto (hname : name ∈ fields.names)
    (hread : fields.readInto name depth slots input = .ok (after, left)) (other : String) :
    fields.isRead other after = true ↔ other = name ∨ fields.isRead other slots = true := by
  induction fields generalizing input left with
  | done => cases hname
  | field key codec get fallback fields ih =>
    rw [readInto] at hread
    split_ifs at hread with heq
    · obtain ⟨⟨value, next⟩, -, hafter⟩ := Outcome.bind_eq_ok.mp hread
      cases hafter
      simp only [isRead, heq]
      split_ifs with hother <;> simp [hother]
    · obtain ⟨⟨others, next⟩, hothers, hafter⟩ := Outcome.bind_eq_ok.mp hread
      cases hafter
      simp only [isRead]
      split_ifs with hother
      · simp [hother, Ne.symm heq]
      · exact ih ((List.mem_cons.mp hname).resolve_left heq) hothers

theorem HasParts.readInto_sound (hparts : fields.HasParts parts) (hname : name ∈ fields.names)
    (hread : fields.readInto name depth slots input = .ok (after, left)) :
    ∃ tree, readValue depth input = .ok (tree, left) ∧ parts.TakesMember name tree := by
  induction hparts generalizing input left with
  | done => cases hname
  | @field _ _ key codec get fallback rest isRequired shape parts hcodec hfallback habsent hrest ih =>
    rw [readInto] at hread
    simp only [Parts.TakesMember]
    split_ifs at hread ⊢ with heq
    · obtain ⟨⟨value, next⟩, hvalue, hafter⟩ := Outcome.bind_eq_ok.mp hread
      cases hafter
      obtain ⟨tree, htree, htakes⟩ := hcodec.sound hvalue
      exact ⟨tree, htree, htakes⟩
    · obtain ⟨⟨others, next⟩, hothers, hafter⟩ := Outcome.bind_eq_ok.mp hread
      cases hafter
      exact ih ((List.mem_cons.mp hname).resolve_left heq) hothers

theorem HasParts.readInto_complete (hparts : fields.HasParts parts)
    (htree : readValue depth input = .ok (tree, left)) (htakes : parts.TakesMember name tree)
    (slots : fields.Slots) : ∃ after, fields.readInto name depth slots input = .ok (after, left) := by
  induction hparts with
  | done => cases htakes
  | @field _ _ key codec get fallback rest isRequired shape parts hcodec hfallback habsent hrest ih =>
    rw [Parts.TakesMember] at htakes
    rw [readInto]
    split_ifs at htakes ⊢ with heq
    · obtain ⟨value, hvalue⟩ := hcodec.complete htree htakes
      exact ⟨_, Outcome.bind_eq_ok.mpr ⟨_, hvalue, rfl⟩⟩
    · obtain ⟨others, hothers⟩ := ih htakes slots.2
      exact ⟨_, Outcome.bind_eq_ok.mpr ⟨_, hothers, rfl⟩⟩

/-! ### Members -/

/-- The next member of a closed record. -/
def readField (fields : Fields ρ σ τ) (depth : Nat) (slots : fields.Slots) (name : String) :
    Reader fields.Slots := fun input =>
  if fields.names.contains name then
    if fields.isRead name slots then mismatch (.duplicateField name)
    else do fields.readInto name depth slots (← readColon input)
  else mismatch (.unknownField name fields.names)

theorem readMembers_closed (fields : Fields ρ σ τ) (depth : Nat) :
    fields.readMembers true depth = readObject (fields.readField depth) fields.noSlots :=
  rfl

theorem readField_eq_ok : fields.readField depth slots name input = .ok (after, left) ↔
    name ∈ fields.names ∧ fields.isRead name slots = false ∧
      ∃ rest, readColon input = .ok rest ∧
        fields.readInto name depth slots rest = .ok (after, left) := by
  unfold readField
  split_ifs with hname hread
  · exact iff_of_false nofun (by rintro ⟨-, hunread, -⟩; rw [hread] at hunread; cases hunread)
  · rw [Outcome.bind_eq_ok]
    exact ⟨fun hfield => ⟨List.contains_iff_mem.mp hname, by simpa using hread, hfield⟩,
      fun hfield => hfield.2.2⟩
  · exact iff_of_false nofun fun hfield => hname (List.contains_iff_mem.mpr hfield.1)

/-- Whether the fields that were read are those of some members. -/
def Marks (slots : fields.Slots) (members : List (String × Json)) : Prop :=
  ∀ name, fields.isRead name slots = true ↔ name ∈ members.map (·.1)

theorem marks_noSlots : Marks fields.noSlots [] := by
  intro name
  rw [isRead_noSlots]
  exact iff_of_false nofun nofun

theorem Marks.cons (hmarks : Marks slots members)
    (hfield : fields.readField depth slots name input = .ok (after, left)) :
    Marks after ((name, tree) :: members) := by
  obtain ⟨hname, -, rest, -, hread⟩ := readField_eq_ok.mp hfield
  intro other
  rw [isRead_readInto hname hread, hmarks other, List.map_cons, List.mem_cons]

theorem HasParts.foldMembers_sound (hparts : fields.HasParts parts)
    (hfold : foldMembers (fields.readField depth) fuel first slots input = .ok (after, left))
    (hmarks : Marks slots members) (hnodup : (members.map (·.1)).Nodup)
    (htakes : ∀ member ∈ members, parts.TakesMember member.1 member.2) :
    ∃ all, foldMembers (readMember depth) fuel first members input = .ok (all, left) ∧
      Marks after all ∧ (all.map (·.1)).Nodup ∧
      ∀ member ∈ all, parts.TakesMember member.1 member.2 := by
  induction fuel generalizing first slots members input with
  | zero => cases hfold
  | succ fuel ih =>
    rcases foldMembers_succ.mp hfold with
      ⟨hnext, rfl, rfl⟩ | ⟨name, rest, between, next, hnext, hfield, hfold⟩
    · exact ⟨members, foldMembers_succ.mpr (Or.inl ⟨hnext, rfl, rfl⟩), hmarks, hnodup, htakes⟩
    · obtain ⟨hname, hunread, colon, hcolon, hread⟩ := readField_eq_ok.mp hfield
      obtain ⟨tree, htree, hshape⟩ := hparts.readInto_sound hname hread
      have hnew : name ∉ members.map (·.1) := fun hmem => by
        rw [(hmarks name).mpr hmem] at hunread
        cases hunread
      obtain ⟨all, hall, hrest⟩ := ih hfold (hmarks.cons hfield)
        (List.nodup_cons.mpr ⟨hnew, hnodup⟩) (List.forall_mem_cons.mpr ⟨hshape, htakes⟩)
      have hmember : readMember depth members name rest = .ok ((name, tree) :: members, next) :=
        readMember_eq_ok.mpr ⟨colon, tree, hcolon, htree, rfl⟩
      exact ⟨all, foldMembers_succ.mpr (Or.inr ⟨name, rest, _, next, hnext, hmember, hall⟩), hrest⟩

theorem HasParts.foldMembers_complete (hparts : fields.HasParts parts)
    (hfold : foldMembers (readMember depth) fuel first members input = .ok (found, left))
    (hmarks : Marks slots members) (hnodup : (found.map (·.1)).Nodup)
    (htakes : ∀ member ∈ found, parts.TakesMember member.1 member.2) :
    ∃ after, foldMembers (fields.readField depth) fuel first slots input = .ok (after, left) ∧
      Marks after found := by
  induction fuel generalizing first slots members input with
  | zero => cases hfold
  | succ fuel ih =>
    rcases foldMembers_succ.mp hfold with
      ⟨hnext, rfl, rfl⟩ | ⟨name, rest, between, next, hnext, hmember, hfold⟩
    · exact ⟨slots, foldMembers_succ.mpr (Or.inl ⟨hnext, rfl, rfl⟩), hmarks⟩
    · obtain ⟨colon, tree, hcolon, htree, rfl⟩ := readMember_eq_ok.mp hmember
      have hsuffix := members_suffix_of_foldMembers hfold
      have hshape := htakes _ (hsuffix.subset List.mem_cons_self)
      have hnew : name ∉ members.map (·.1) :=
        (List.nodup_cons.mp (hnodup.sublist (hsuffix.map (·.1)).sublist)).1
      obtain ⟨between, hread⟩ := hparts.readInto_complete htree hshape slots
      have hname : name ∈ fields.names := by
        rw [hparts.names_eq]
        exact Parts.mem_names_of_takesMember hshape
      have hunread : fields.isRead name slots = false := by
        rw [Bool.eq_false_iff]
        exact mt (hmarks name).mp hnew
      have hfield := readField_eq_ok.mpr ⟨hname, hunread, colon, hcolon, hread⟩
      obtain ⟨after, hafter, hmarked⟩ := ih hfold (hmarks.cons hfield)
      exact ⟨after, foldMembers_succ.mpr (Or.inr ⟨name, rest, _, next, hnext, hfield, hafter⟩),
        hmarked⟩

/-- A record is complete when all that it requires is read. -/
theorem HasParts.finish_eq_ok (hparts : fields.HasParts parts) (hnodup : fields.names.Nodup)
    (make : τ) (slots : fields.Slots) : (∃ result, fields.finish make slots = .ok result) ↔
      ∀ name ∈ parts.required, fields.isRead name slots = true := by
  induction hparts with
  | done => exact iff_of_true ⟨make, rfl⟩ (List.forall_mem_nil _)
  | @field _ _ key codec get fallback rest isRequired shape parts hcodec hfallback habsent hrest ih =>
    obtain ⟨hkey, hothersNodup⟩ := List.nodup_cons.mp hnodup
    have hself : (Fields.field key codec get fallback rest).isRead key slots = slots.1.isSome := by
      rw [isRead, if_pos rfl]
    have hothers : (∀ name ∈ parts.required,
        (Fields.field key codec get fallback rest).isRead name slots = true) ↔
        ∀ name ∈ parts.required, rest.isRead name slots.2 = true := by
      refine forall₂_congr fun name hname => ?_
      have hne : name ≠ key := by
        rintro rfl
        rw [hrest.names_eq] at hkey
        exact hkey (Parts.required_subset_names hname)
      rw [isRead, if_neg hne]
    rw [finish]
    cases isRequired with
    | false =>
      rw [Parts.required, if_neg Bool.false_ne_true, hothers]
      obtain ⟨standing, rfl⟩ := Option.isSome_iff_exists.mp hfallback
      cases slots.1 with
      | none => exact ih hothersNodup _ _
      | some value => exact ih hothersNodup _ _
    | true =>
      obtain rfl := Option.not_isSome_iff_eq_none.mp (ne_true_of_eq_false hfallback)
      rw [Parts.required, if_pos rfl, List.forall_mem_cons, hself, hothers, habsent rfl]
      cases slots.1 with
      | none => exact iff_of_false (by rintro ⟨_, ⟨⟩⟩) (by rintro ⟨⟨⟩, -⟩)
      | some value => exact (ih hothersNodup _ _).trans (and_iff_right rfl).symm

/-! ### Items -/

theorem nextItem_end (hskip : skipSpace input = ']' :: rest) (first : Bool) :
    nextItem first input = .ok none := by
  rw [nextItem, hskip]
  rfl

theorem skipSpace_of_nextItem (hnext : nextItem first input = .ok none) :
    ∃ rest, skipSpace input = ']' :: rest := by
  unfold nextItem at hnext
  split at hnext
  · cases hnext
  next rest hskip => exact ⟨rest, hskip⟩
  next =>
    split_ifs at hnext
    · cases hnext
    · split at hnext <;> cases hnext
    · cases hnext

theorem fuel_pos (hskip : skipSpace input = ']' :: rest) (hfuel : input.length ≤ fuel) :
    ∃ less, fuel = less + 1 := by
  cases fuel with
  | zero =>
    obtain rfl := List.eq_nil_of_length_eq_zero (Nat.le_zero.mp hfuel)
    cases hskip
  | succ fuel => exact ⟨fuel, rfl⟩

/-- The items of a record are read within the length of the text. -/
theorem HasParts.readItems_sound {result : σ} (hparts : fields.HasParts parts)
    (hread : fields.readItems wanted depth make index input = .ok (result, rest))
    (hclose : closeArray rest = .ok left) (hfuel : input.length ≤ fuel)
    (hfirst : index = 0 → input.length < fuel) (trees : List Json) :
    ∃ items, foldItems (readItem depth) fuel (index == 0) trees input =
        .ok (items.reverse ++ trees, rest) ∧ parts.TakesItems items := by
  induction hparts generalizing index fuel input trees with
  | done =>
    cases hread
    have hskip := skipSpace_of_closeArray hclose
    obtain ⟨fuel, rfl⟩ := fuel_pos hskip hfuel
    exact ⟨[], foldItems_succ.mpr (Or.inl ⟨nextItem_end hskip _, rfl, rfl⟩), rfl⟩
  | @field _ _ key codec get fallback fields isRequired shape parts hcodec hfallback habsent hrest ih =>
    simp only [readItems] at hread
    obtain ⟨next?, hnext, hread⟩ := Outcome.bind_eq_ok.mp hread
    cases next? with
    | none =>
      obtain ⟨after, hskip⟩ := skipSpace_of_nextItem hnext
      obtain ⟨fuel, rfl⟩ := fuel_pos hskip hfuel
      cases fallback with
      | none => cases hread
      | some value =>
        obtain ⟨items, hfold, hshapes⟩ := ih hread hfuel (absurd · (Nat.succ_ne_zero _)) trees
        rcases foldItems_succ.mp hfold with ⟨-, hitems, rfl⟩ | ⟨_, _, _, hmore, -⟩
        · have hnil : items = [] := by simpa using hitems.symm
          subst hnil
          have hrequired : isRequired = false := by simpa using hfallback
          exact ⟨[], foldItems_succ.mpr (Or.inl ⟨hnext, rfl, rfl⟩), hrequired, hshapes⟩
        · rw [nextItem_end hskip] at hmore
          cases hmore
    | some next =>
      obtain ⟨⟨value, after⟩, hvalue, hread⟩ := Outcome.bind_eq_ok.mp hread
      obtain ⟨tree, htree, htakes⟩ := hcodec.sound hvalue
      obtain ⟨hsuffix, hshorter⟩ := suffix_of_nextItem hnext
      have hafter := (suffix_of_readValue htree).length_le
      have hbound : next.length < fuel := by
        by_cases hindex : index = 0
        · exact hsuffix.length_le.trans_lt (hfirst hindex)
        · exact (hshorter (beq_false_of_ne hindex)).trans_le hfuel
      obtain ⟨fuel, rfl⟩ := Nat.exists_eq_add_one_of_ne_zero (Nat.ne_zero_of_lt hbound)
      have hless : after.length ≤ fuel := hafter.trans (Nat.le_of_lt_succ hbound)
      obtain ⟨items, hfold, hshapes⟩ := ih hread hless (absurd · (Nat.succ_ne_zero _)) (tree :: trees)
      have hitem : readItem depth trees next = .ok (tree :: trees, after) :=
        readItem_eq_ok.mpr ⟨tree, htree, rfl⟩
      refine ⟨tree :: items, ?_, htakes, hshapes⟩
      rw [List.reverse_cons, List.append_assoc]
      exact foldItems_succ.mpr (Or.inr ⟨next, _, after, hnext, hitem, hfold⟩)

theorem HasParts.readItems_complete (hparts : fields.HasParts parts)
    (hfold : foldItems (readItem depth) fuel (index == 0) trees input = .ok (all, rest))
    (hitems : all.reverse = trees.reverse ++ items) (htakes : parts.TakesItems items) (make : τ) :
    ∃ result, fields.readItems wanted depth make index input = .ok (result, rest) := by
  induction hparts generalizing index fuel input trees items with
  | done =>
    obtain rfl : items = [] := htakes
    rw [List.append_nil, List.reverse_inj] at hitems
    cases fuel with
    | zero => cases hfold
    | succ fuel =>
      rcases foldItems_succ.mp hfold with ⟨-, -, rfl⟩ | ⟨next, _, after, hnext, hitem, hfold⟩
      · exact ⟨make, rfl⟩
      · obtain ⟨tree, -, rfl⟩ := readItem_eq_ok.mp hitem
        have hlonger := (items_suffix_of_foldItems hfold).length_le
        rw [hitems, List.length_cons] at hlonger
        exact absurd hlonger (Nat.not_succ_le_self _)
  | @field _ _ key codec get fallback fields isRequired shape parts hcodec hfallback habsent hrest ih =>
    cases fuel with
    | zero => cases hfold
    | succ fuel =>
      simp only [readItems]
      rcases foldItems_succ.mp hfold with ⟨hnext, rfl, rfl⟩ | ⟨next, _, after, hnext, hitem, hfold⟩
      · obtain rfl := List.self_eq_append_right.mp hitems
        obtain ⟨rfl, hothers⟩ := htakes
        obtain ⟨value, rfl⟩ := Option.isSome_iff_exists.mp hfallback
        obtain ⟨closing, hskip⟩ := skipSpace_of_nextItem hnext
        have hend : foldItems (readItem depth) (fuel + 1) (index + 1 == 0) trees input =
            .ok (trees, input) := foldItems_succ.mpr (Or.inl ⟨nextItem_end hskip _, rfl, rfl⟩)
        obtain ⟨result, hresult⟩ := ih hend hitems hothers (make value)
        exact ⟨result, Outcome.bind_eq_ok.mpr ⟨none, hnext, hresult⟩⟩
      · obtain ⟨tree, htree, rfl⟩ := readItem_eq_ok.mp hitem
        obtain ⟨later, rfl⟩ := items_suffix_of_foldItems hfold
        obtain rfl : tree :: later.reverse = items := by simpa using hitems
        obtain ⟨hshape, hothers⟩ := htakes
        obtain ⟨value, hvalue⟩ := hcodec.complete htree hshape
        have hfold : foldItems (readItem depth) fuel (index + 1 == 0) (tree :: trees) after =
            .ok (later ++ tree :: trees, rest) := hfold
        obtain ⟨result, hresult⟩ := ih hfold (by simp) hothers (make value)
        exact ⟨result, Outcome.bind_eq_ok.mpr
          ⟨some next, hnext, Outcome.bind_eq_ok.mpr ⟨(value, after), hvalue, hresult⟩⟩⟩

/-! ### The record -/

/-- An array is read as a record exactly when its items are those of one. -/
theorem HasParts.readItems_iff (hparts : fields.HasParts parts) (make : τ) :
    (∃ record next, fields.readItems wanted depth make 0 input = .ok (record, next) ∧
        closeArray next = .ok left) ↔
      ∃ all, readArray (readItem depth) [] input = .ok (all, left) ∧
        (Shape.record parts).Takes (.arr all.reverse) := by
  constructor
  · rintro ⟨record, next, hitems, hclose⟩
    obtain ⟨items, hfold, htakes⟩ := hparts.readItems_sound hitems hclose
      (Nat.le_succ input.length) (fun _ => Nat.lt_succ_self input.length) []
    refine ⟨items.reverse ++ [], readArray_eq_ok.mpr ⟨next, hfold, hclose⟩, ?_⟩
    rw [List.append_nil, List.reverse_reverse]
    exact Shape.takes_arr.mpr htakes
  · rintro ⟨all, harray, htakes⟩
    obtain ⟨next, hfold, hclose⟩ := readArray_eq_ok.mp harray
    have hfold : foldItems (readItem depth) (input.length + 1) (0 == 0) [] input = .ok (all, next) :=
      hfold
    obtain ⟨record, hrecord⟩ := hparts.readItems_complete hfold (List.nil_append _).symm
      (Shape.takes_arr.mp htakes) make
    exact ⟨record, next, hrecord, hclose⟩

/-- An object is read as a record exactly when its members are those of one. -/
theorem HasParts.readMembers_iff (hparts : fields.HasParts parts) (hnodup : fields.names.Nodup)
    (make : τ) :
    (∃ slots record, fields.readMembers true depth input = .ok (slots, left) ∧
        fields.finish make slots = .ok record) ↔
      ∃ all, readObject (readMember depth) [] input = .ok (all, left) ∧
        (Shape.record parts).Takes (.obj all.reverse) := by
  simp only [readMembers_closed, Shape.takes_obj, List.map_reverse, List.nodup_reverse,
    List.mem_reverse]
  constructor
  · rintro ⟨slots, record, hmembers, hrecord⟩
    obtain ⟨last, hfold, hclose⟩ := readObject_eq_ok.mp hmembers
    obtain ⟨all, hall, hmarks, hdistinct, htakes⟩ := hparts.foldMembers_sound hfold marks_noSlots
      List.nodup_nil (List.forall_mem_nil _)
    have hrequired := (hparts.finish_eq_ok hnodup make slots).mp ⟨record, hrecord⟩
    exact ⟨all, readObject_eq_ok.mpr ⟨last, hall, hclose⟩, hdistinct,
      fun name hname => (hmarks name).mp (hrequired name hname), htakes⟩
  · rintro ⟨all, hobject, hdistinct, hrequired, htakes⟩
    obtain ⟨last, hfold, hclose⟩ := readObject_eq_ok.mp hobject
    obtain ⟨slots, hslots, hmarks⟩ :=
      hparts.foldMembers_complete hfold marks_noSlots hdistinct htakes
    obtain ⟨record, hrecord⟩ := (hparts.finish_eq_ok hnodup make slots).mpr fun name hname =>
      (hmarks name).mpr (hrequired name hname)
    exact ⟨slots, record, readObject_eq_ok.mpr ⟨last, hslots, hclose⟩, hrecord⟩

end Fields

namespace Codec

open Fields

variable {ρ τ : Type} {fields : Fields ρ ρ τ} {parts : Parts}

/-- A closed record has the shape of its parts. -/
theorem hasShape_record (hparts : fields.HasParts parts) (hnodup : fields.names.Nodup) (name : String)
    (make : τ) : (Codec.record name true fields make).HasShape (.record parts) where
  sound {depth input value left} hread := by
    obtain ⟨⟨head, rest⟩, hhead, hread⟩ := Outcome.bind_eq_ok.mp hread
    cases head with
    | scalar value => cases hread
    | array =>
      obtain ⟨below, hbelow, hread⟩ := Outcome.bind_eq_ok.mp hread
      obtain ⟨⟨record, next⟩, hitems, hread⟩ := Outcome.bind_eq_ok.mp hread
      obtain ⟨closed, hclose, hvalue⟩ := Outcome.bind_eq_ok.mp hread
      cases hvalue
      obtain ⟨all, harray, htakes⟩ := (hparts.readItems_iff make).mp ⟨_, next, hitems, hclose⟩
      rw [descend_eq_ok hbelow]
      exact ⟨_, readValue_array hhead harray, htakes⟩
    | object =>
      obtain ⟨below, hbelow, hread⟩ := Outcome.bind_eq_ok.mp hread
      obtain ⟨⟨slots, next⟩, hmembers, hread⟩ := Outcome.bind_eq_ok.mp hread
      obtain ⟨record, hrecord, hvalue⟩ := Outcome.bind_eq_ok.mp hread
      cases hvalue
      obtain ⟨all, hobject, htakes⟩ := (hparts.readMembers_iff hnodup make).mp
        ⟨slots, _, hmembers, eq_ok_of_inText hrecord⟩
      rw [descend_eq_ok hbelow]
      exact ⟨_, readValue_object hhead hobject, htakes⟩
  complete {depth input tree left} hread htakes := by
    rcases readValue_eq_ok hread with hhead | ⟨below, rfl, ⟨rest, all, hhead, harray, rfl⟩ |
      ⟨rest, all, hhead, hobject, rfl⟩⟩
    · have hscalar := isScalar_of_readHead hhead
      rcases htakes with ⟨items, rfl, -⟩ | ⟨members, rfl, -⟩ <;> exact absurd hscalar id
    · obtain ⟨record, next, hitems, hclose⟩ := (hparts.readItems_iff make).mpr ⟨all, harray, htakes⟩
      exact ⟨record, Outcome.bind_eq_ok.mpr ⟨_, hhead, Outcome.bind_eq_ok.mpr ⟨below, rfl,
        Outcome.bind_eq_ok.mpr ⟨_, hitems, Outcome.bind_eq_ok.mpr ⟨left, hclose, rfl⟩⟩⟩⟩⟩
    · obtain ⟨slots, record, hmembers, hrecord⟩ :=
        (hparts.readMembers_iff hnodup make).mpr ⟨all, hobject, htakes⟩
      refine ⟨record, Outcome.bind_eq_ok.mpr ⟨_, hhead, Outcome.bind_eq_ok.mpr ⟨below, rfl,
        Outcome.bind_eq_ok.mpr ⟨_, hmembers, ?_⟩⟩⟩⟩
      dsimp only
      rw [hrecord]
      rfl

end Codec

end KnowledgeSchema
