import KnowledgeSchema.Proofs.Json.Rereading

/-!
# Records read from their own texts

A record is written with all its fields, each of them once. So each member finds its slot empty and
fills it with the value that it was written for, and the record is made of those values again.
-/

namespace KnowledgeSchema

open Json

/-! ### Fields -/

namespace Fields

variable {ρ σ τ : Type} {fields : Fields ρ σ τ} {record : ρ} {depth : Nat}

/-- One value for each field. -/
@[reducible]
def Values {τ : Type} : Fields ρ σ τ → Type
  | .done => Unit
  | .field (α := α) _ _ _ _ rest => α × rest.Values

def valuesOf {τ : Type} : (fields : Fields ρ σ τ) → ρ → fields.Values
  | .done, _ => ()
  | .field _ _ get _ rest, record => (get record, rest.valuesOf record)

/-- What is made of one value for each field. -/
def build {τ : Type} : (fields : Fields ρ σ τ) → τ → fields.Values → σ
  | .done, result, _ => result
  | .field _ _ _ _ rest, make, values => rest.build (make values.1) values.2

/-- The slots when the values of all fields have been read. -/
def slotsOf {τ : Type} : (fields : Fields ρ σ τ) → ρ → fields.Slots
  | .done, _ => ()
  | .field _ _ get _ rest, record => (some (get record), rest.slotsOf record)

/-- Puts the value that a record has for a field into its slot. -/
def fill {τ : Type} (record : ρ) (name : String) : (fields : Fields ρ σ τ) → fields.Slots → fields.Slots
  | .done, slots => slots
  | .field other _ get _ rest, slots =>
    if name = other then (some (get record), slots.2) else (slots.1, rest.fill record name slots.2)

/-- Whether the value of each field is reread. -/
def Reread {τ : Type} (depth : Nat) : Fields ρ σ τ → ρ → Prop
  | .done, _ => True
  | .field _ codec get _ rest, record => codec.Rereads depth (get record) ∧ rest.Reread depth record

/-- Whether the value of each field is restored. -/
def Restored {τ : Type} (depth : Nat) : Fields ρ σ τ → ρ → Prop
  | .done, _ => True
  | .field _ codec get _ rest, record =>
    codec.Restores depth (get record) ∧ rest.Restored depth record

theorem names_encode (fields : Fields ρ σ τ) (record : ρ) :
    (fields.encode record).map (·.1) = fields.names := by
  induction fields with
  | done => rfl
  | field name codec get fallback rest ih => rw [encode, List.map_cons, ih, names]

theorem mem_names {member : String × Json} (hmember : member ∈ fields.encode record) :
    member.1 ∈ fields.names := by
  rw [← fields.names_encode record]
  exact List.mem_map_of_mem hmember

theorem finish_slotsOf (fields : Fields ρ σ τ) (make : τ) (record : ρ) :
    fields.finish make (fields.slotsOf record) =
      .ok (fields.build make (fields.valuesOf record)) := by
  induction fields with
  | done => rfl
  | field name codec get fallback rest ih => exact ih (make (get record))

theorem isRead_noSlots (fields : Fields ρ σ τ) (name : String) :
    fields.isRead name fields.noSlots = false := by
  induction fields with
  | done => rfl
  | field other codec get fallback rest ih =>
    rw [noSlots, isRead]
    split_ifs
    · rfl
    · exact ih

theorem isRead_fill {name other : String} (hne : other ≠ name) (slots : fields.Slots) :
    fields.isRead other (fields.fill record name slots) = fields.isRead other slots := by
  induction fields with
  | done => rfl
  | field key codec get fallback rest ih =>
    rw [fill]
    by_cases hname : name = key
    · subst hname
      rw [if_pos rfl, isRead, isRead, if_neg hne, if_neg hne]
    · rw [if_neg hname, isRead, isRead]
      split_ifs
      · rfl
      · exact ih slots.2

/-- All members of a record fill all its slots. -/
theorem foldl_fill (hnodup : fields.names.Nodup) (record : ρ) :
    (fields.encode record).foldl (fun slots member => fields.fill record member.1 slots)
      fields.noSlots = fields.slotsOf record := by
  induction fields with
  | done => rfl
  | field name codec get fallback rest ih =>
    rw [names, List.nodup_cons] at hnodup
    have hothers : ∀ (members : List (String × Json)) slots, (∀ member ∈ members, member.1 ≠ name) →
        members.foldl (fun slots member =>
            (field name codec get fallback rest).fill record member.1 slots) slots =
          (slots.1, members.foldl (fun slots member => rest.fill record member.1 slots) slots.2) := by
      intro members
      induction members with
      | nil => exact fun slots _ => rfl
      | cons member members ihMembers =>
        intro slots hmembers
        rw [List.foldl_cons, List.foldl_cons, fill, if_neg (hmembers member List.mem_cons_self),
          ihMembers _ fun other hother => hmembers other (List.mem_cons_of_mem _ hother)]
    rw [encode, List.foldl_cons, hothers]
    · rw [fill, if_pos rfl, noSlots]
      exact congrArg (Prod.mk _) (ih hnodup.2)
    · intro member hmember hsame
      exact hnodup.1 (hsame ▸ mem_names hmember)

/-- Members under distinct names whose slots are empty. -/
structure Awaits (fields : Fields ρ σ τ) (slots : fields.Slots) (members : List (String × Json)) :
    Prop where
  distinct : (members.map (·.1)).Nodup
  unread : ∀ member ∈ members, fields.isRead member.1 slots = false

theorem awaits_encode (hnodup : fields.names.Nodup) (record : ρ) :
    fields.Awaits fields.noSlots (fields.encode record) where
  distinct := by rwa [names_encode]
  unread member _ := fields.isRead_noSlots member.1

theorem Awaits.fill {slots : fields.Slots} {member : String × Json} {members : List (String × Json)}
    (hawaits : fields.Awaits slots (member :: members)) :
    fields.Awaits (fields.fill record member.1 slots) members := by
  obtain ⟨hdistinct, hunread⟩ := hawaits
  rw [List.map_cons, List.nodup_cons] at hdistinct
  refine ⟨hdistinct.2, fun other hother => ?_⟩
  rw [isRead_fill]
  · exact hunread other (List.mem_cons_of_mem _ hother)
  · intro hsame
    exact hdistinct.1 (hsame ▸ List.mem_map_of_mem hother)

theorem readInto_encode (hnodup : fields.names.Nodup) (hreread : fields.Reread depth record)
    {member : String × Json} (hmember : member ∈ fields.encode record)
    (hsteady : member.2.IsSteady) {rest : List Char} (hrest : EndsNumber rest)
    (slots : fields.Slots) :
    fields.readInto member.1 depth slots (Json.write member.2 ++ rest) =
      .ok (fields.fill record member.1 slots, rest) := by
  induction fields with
  | done => cases hmember
  | field name codec get fallback others ih =>
    rw [names, List.nodup_cons] at hnodup
    rw [readInto, fill]
    rcases List.mem_cons.mp hmember with rfl | hmember
    · rw [if_pos rfl, if_pos rfl, hreread.1 hsteady rest hrest]
      rfl
    · have hne : member.1 ≠ name := fun hsame => hnodup.1 (hsame ▸ mem_names hmember)
      rw [if_neg hne, if_neg hne, ih hnodup.2 hreread.2 hmember]
      rfl

theorem takeInto_encode (hnodup : fields.names.Nodup) (hrestored : fields.Restored depth record)
    {member : String × Json} (hmember : member ∈ fields.encode record) (slots : fields.Slots) :
    fields.takeInto member.1 member.2 slots = .ok (fields.fill record member.1 slots) := by
  induction fields with
  | done => cases hmember
  | field name codec get fallback others ih =>
    rw [names, List.nodup_cons] at hnodup
    rw [takeInto, fill]
    rcases List.mem_cons.mp hmember with rfl | hmember
    · rw [if_pos rfl, if_pos rfl, hrestored.1.ofJson]
      rfl
    · have hne : member.1 ≠ name := fun hsame => hnodup.1 (hsame ▸ mem_names hmember)
      rw [if_neg hne, if_neg hne, ih hnodup.2 hrestored.2 hmember]
      rfl

theorem Restored.fits (hrestored : fields.Restored depth record) {member : String × Json}
    (hmember : member ∈ fields.encode record) : member.2.Fits depth := by
  induction fields with
  | done => cases hmember
  | field name codec get fallback others ih =>
    rcases List.mem_cons.mp hmember with rfl | hmember
    · exact hrestored.1.fits
    · exact ih hrestored.2 hmember

theorem readMembers_encode (hnodup : fields.names.Nodup) (hreread : fields.Reread depth record)
    (hsteady : (obj (fields.encode record)).IsSteady) (closed : Bool) (rest : List Char) :
    fields.readMembers closed depth (writeMembers true (fields.encode record) ++ rest) =
      .ok (fields.slotsOf record, rest) := by
  rw [readMembers, readObject_write (fun slots member => fields.fill record member.1 slots)
    (fun slots members => (∀ member ∈ members, member ∈ fields.encode record) ∧
      fields.Awaits slots members) ?step ?ready ⟨fun _ h => h, awaits_encode hnodup record⟩,
    foldl_fill hnodup]
  case step =>
    rintro slots member members rest ⟨hmembers, hawaits⟩ hrest
    have hmember := hmembers member List.mem_cons_self
    rw [if_pos (List.contains_iff_mem.mpr (mem_names hmember)),
      if_neg (by simp [hawaits.unread member List.mem_cons_self])]
    exact readInto_encode hnodup hreread hmember (hsteady.member hmember) hrest slots
  case ready =>
    rintro slots member members ⟨hmembers, hawaits⟩
    exact ⟨fun other hother => hmembers other (List.mem_cons_of_mem _ hother), hawaits.fill⟩

theorem ofMembers_encode (hnodup : fields.names.Nodup) (hrestored : fields.Restored depth record)
    (make : τ) : fields.ofMembers make (fields.encode record) =
      .ok (fields.build make (fields.valuesOf record)) := by
  have hfold : ∀ (members : List (String × Json)) slots,
      (∀ member ∈ members, member ∈ fields.encode record) → fields.Awaits slots members →
      members.foldlM (fun slots member =>
        if !fields.names.contains member.1 then .ok slots
        else if fields.isRead member.1 slots then .error (.duplicateField member.1)
        else fields.takeInto member.1 member.2 slots) slots =
      (Except.ok (members.foldl (fun slots member => fields.fill record member.1 slots) slots) :
        Except Reason _) := by
    intro members
    induction members with
    | nil => exact fun slots _ _ => rfl
    | cons member members ih =>
      intro slots hmembers hawaits
      have hmember := hmembers member List.mem_cons_self
      have hunread := hawaits.unread member List.mem_cons_self
      rw [List.foldlM_cons, List.foldl_cons]
      simp only [List.contains_iff_mem.mpr (mem_names hmember), hunread, Bool.not_true,
        Bool.false_eq_true, if_false, takeInto_encode hnodup hrestored hmember]
      exact ih _ (fun other hother => hmembers other (List.mem_cons_of_mem _ hother)) hawaits.fill
  rw [ofMembers, hfold _ _ (fun _ h => h) (awaits_encode hnodup record), foldl_fill hnodup]
  exact finish_slotsOf fields make record

/-- Whether records are made of one value for each field and of nothing else. -/
structure IsExact (fields : Fields ρ ρ τ) (make : τ) : Prop where
  distinct : fields.names.Nodup
  build_valuesOf : ∀ record, fields.build make (fields.valuesOf record) = record
  valuesOf_build : ∀ values, fields.valuesOf (fields.build make values) = values

end Fields

/-! ### Records -/

namespace Codec

variable {ρ τ : Type} {depth : Nat} {record : ρ}

theorem rereads_record {fields : Fields ρ ρ τ} {make : τ} (hexact : fields.IsExact make)
    (hreread : fields.Reread depth record) (name : String) (closed : Bool) :
    (Codec.record name closed fields make).Rereads (depth + 1) record := by
  intro hsteady rest _
  change (fields.readMembers closed depth (writeMembers true (fields.encode record) ++ rest) >>= _)
    = _
  rw [Fields.readMembers_encode hexact.distinct hreread hsteady]
  change (inText (fields.finish make (fields.slotsOf record)) >>= _) = _
  rw [Fields.finish_slotsOf, hexact.build_valuesOf]
  rfl

/-! ### Records in records -/

section Extended

variable {δ υ : Type} {inner : Fields δ δ υ} {makeInner : υ} {own : Fields ρ (δ → ρ) τ} {make : τ}
  {part : ρ → δ}

/-- What is kept of a member: a value in its slot, or the member itself for the record inside. -/
def keepMember (own : Fields ρ (δ → ρ) τ) (record : ρ) :
    own.Slots × List (String × Json) → String × Json → own.Slots × List (String × Json)
  | (slots, held), member =>
    if own.names.contains member.1 then (own.fill record member.1 slots, held)
    else (slots, member :: held)

theorem foldl_keepMember (hnodup : own.names.Nodup) {members : List (String × Json)}
    (hothers : ∀ member ∈ members, member.1 ∉ own.names) :
    (members ++ own.encode record).foldl (keepMember own record) (own.noSlots, []) =
      (own.slotsOf record, members.reverse) := by
  have hheld : ∀ (members held : List (String × Json)) (slots : own.Slots),
      (∀ member ∈ members, member.1 ∉ own.names) →
      members.foldl (keepMember own record) (slots, held) = (slots, members.reverse ++ held) := by
    intro members
    induction members with
    | nil => exact fun held slots _ => rfl
    | cons member members ih =>
      intro held slots hmembers
      have hmember : ¬own.names.contains member.1 = true := by
        rw [List.contains_iff_mem]
        exact hmembers member List.mem_cons_self
      rw [List.foldl_cons, keepMember, if_neg hmember,
        ih _ _ fun other hother => hmembers other (List.mem_cons_of_mem _ hother),
        List.reverse_cons, List.append_assoc, List.singleton_append]
  have hfilled : ∀ (members held : List (String × Json)) (slots : own.Slots),
      (∀ member ∈ members, member.1 ∈ own.names) →
      members.foldl (keepMember own record) (slots, held) =
        (members.foldl (fun slots member => own.fill record member.1 slots) slots, held) := by
    intro members
    induction members with
    | nil => exact fun held slots _ => rfl
    | cons member members ih =>
      intro held slots hmembers
      rw [List.foldl_cons, List.foldl_cons, keepMember,
        if_pos (List.contains_iff_mem.mpr (hmembers member List.mem_cons_self)),
        ih _ _ fun other hother => hmembers other (List.mem_cons_of_mem _ hother)]
  rw [List.foldl_append, hheld _ _ _ hothers, List.append_nil,
    hfilled _ _ _ fun _ hmember => Fields.mem_names hmember, Fields.foldl_fill hnodup]

/-- A record with another one in it is reread when its own values are, and when those of the record in
it come back from the members that are set aside for it. -/
theorem rereads_extended (hexact : inner.IsExact makeInner)
    (hnodup : (inner.names ++ own.names).Nodup) (hown : own.Reread depth record)
    (hinner : inner.Restored depth (part record))
    (hbuild : own.build make (own.valuesOf record) (part record) = record) (name : String) :
    (Codec.extended name inner makeInner own make part).Rereads (depth + 1) record := by
  obtain ⟨hinnerNames, hownNames, hapart⟩ := List.nodup_append.mp hnodup
  have hothers : ∀ member ∈ inner.encode (part record), member.1 ∉ own.names :=
    fun member hmember hown => hapart _ (Fields.mem_names hmember) _ hown rfl
  have hawaits : own.Awaits own.noSlots (inner.encode (part record) ++ own.encode record) := by
    refine ⟨?_, fun member _ => own.isRead_noSlots member.1⟩
    rwa [List.map_append, Fields.names_encode, Fields.names_encode]
  intro hsteady rest _
  change (readObject _ (own.noSlots, [])
    (writeMembers true (inner.encode (part record) ++ own.encode record) ++ rest) >>= _) = _
  rw [readObject_write (keepMember own record)
    (fun state members =>
      (∀ member ∈ members, member ∈ inner.encode (part record) ++ own.encode record) ∧
        own.Awaits state.1 members) ?step ?ready ⟨fun _ h => h, hawaits⟩,
    foldl_keepMember hownNames hothers]
  case step =>
    rintro ⟨slots, held⟩ member members rest ⟨hmembers, hawaits⟩ hrest
    have hmember := hmembers member List.mem_cons_self
    have hmemberSteady : member.2.IsSteady := IsSteady.member hsteady hmember
    have hunread := hawaits.unread member List.mem_cons_self
    dsimp only at hunread
    rcases List.mem_append.mp hmember with hinnerMember | hownMember
    · have hother : ¬own.names.contains member.1 = true := by
        rw [List.contains_iff_mem]
        exact hothers member hinnerMember
      dsimp only
      rw [if_neg hother, keepMember, if_neg hother]
      change (readValue depth (Json.write member.2 ++ rest) >>= _) = _
      rw [readValue_write (hinner.fits hinnerMember) hmemberSteady hrest]
      rfl
    · have hname := List.contains_iff_mem.mpr (Fields.mem_names hownMember)
      dsimp only
      rw [if_pos hname, keepMember, if_pos hname, hunread, if_neg Bool.false_ne_true]
      change (own.readInto member.1 depth slots (Json.write member.2 ++ rest) >>= _) = _
      rw [Fields.readInto_encode hownNames hown hownMember hmemberSteady hrest]
      rfl
  case ready =>
    rintro ⟨slots, held⟩ member members ⟨hmembers, hawaits⟩
    refine ⟨fun other hother => hmembers other (List.mem_cons_of_mem _ hother), ?_⟩
    rw [keepMember]
    split_ifs
    · exact hawaits.fill
    · exact ⟨(List.nodup_cons.mp hawaits.distinct).2,
        fun other hother => hawaits.unread other (List.mem_cons_of_mem _ hother)⟩
  change (inText (own.finish make (own.slotsOf record)) >>= fun build =>
    inText (inner.ofMembers makeInner (inner.encode (part record)).reverse.reverse) >>= _) = _
  rw [Fields.finish_slotsOf, List.reverse_reverse, Fields.ofMembers_encode hinnerNames hinner,
    hexact.build_valuesOf]
  exact congrArg (fun record => Except.ok (record, rest)) hbuild

end Extended

/-! ### Tagged records -/

section Tagged

variable {ε : Type} {arms : List (Arm ε)} {tag : String} {value : ε}

theorem readVariant_write {known : List (String × τ)} {name : String} {chosen : τ}
    (hpick : pick known name = .ok chosen) (rest : List Char) :
    readVariant known (Json.write (.str name) ++ rest) = .ok (chosen, rest) := by
  rw [readVariant, Json.write, readHead_writeText]
  change (inText (pick known name) >>= _) = _
  rw [hpick]
  rfl

/-- What is known of a tagged record with one more member: its arm, or what is set aside for it. -/
def setAside (tag : String) (arm : Arm ε) (state : Option (Arm ε) × List (String × Json))
    (member : String × Json) : Option (Arm ε) × List (String × Json) :=
  if member.1 = tag then (some arm, state.2) else (state.1, member :: state.2)

theorem foldl_setAside {arm : Arm ε} {members : List (String × Json)}
    (htag : ∀ member ∈ members, member.1 ≠ tag) (held : List (String × Json)) :
    members.foldl (setAside tag arm) (some arm, held) = (some arm, members.reverse ++ held) := by
  induction members generalizing held with
  | nil => rfl
  | cons member members ih =>
    rw [List.foldl_cons, setAside, if_neg (htag member List.mem_cons_self),
      ih fun other hother => htag other (List.mem_cons_of_mem _ hother), List.reverse_cons,
      List.append_assoc, List.singleton_append]

/-- A tagged record is reread when its arm is found under its name and makes the value again of the
members that are set aside. -/
theorem rereads_tagged {arm : Arm ε} {members : List (String × Json)}
    (harm : pick (armsByName arms) arm.name = .ok arm)
    (hencode : encodeTagged tag value arms = .obj ((tag, .str arm.name) :: members))
    (htag : ∀ member ∈ members, member.1 ≠ tag) (hfits : ∀ member ∈ members, member.2.Fits depth)
    (hof : arm.ofMembers members = .ok value) (title : String) :
    (tagged title tag arms).Rereads (depth + 1) value := by
  intro hsteady rest _
  change (encodeTagged tag value arms).IsSteady at hsteady
  change (tagged title tag arms).read (depth + 1)
    (Json.write (encodeTagged tag value arms) ++ rest) = _
  rw [hencode] at hsteady ⊢
  change (readObject _ (none, []) (writeMembers true ((tag, .str arm.name) :: members) ++ rest) >>=
    _) = _
  -- the tag comes first, and every member behind it is set aside
  rw [readObject_write (setAside tag arm)
    (fun state others => (state.1 = none ∧ others = (tag, .str arm.name) :: members) ∨
      ∀ member ∈ others, member ∈ members) ?step ?ready (Or.inl ⟨rfl, rfl⟩)]
  case step =>
    rintro ⟨arm?, held⟩ member others rest (⟨hnone, hothers⟩ | hothers) hrest
    · obtain ⟨rfl, rfl⟩ := List.cons.inj hothers
      dsimp only at hnone
      subst hnone
      dsimp only
      rw [setAside, if_pos rfl, if_pos rfl, Option.isSome_none, if_neg Bool.false_ne_true]
      change (readVariant (armsByName arms) (Json.write (.str arm.name) ++ rest) >>= _) = _
      rw [readVariant_write harm]
      rfl
    · have hmember := hothers member List.mem_cons_self
      dsimp only
      rw [setAside, if_neg (htag member hmember), if_neg (htag member hmember)]
      change (readValue depth (Json.write member.2 ++ rest) >>= _) = _
      rw [readValue_write (hfits member hmember)
        (IsSteady.member hsteady (List.mem_cons_of_mem _ hmember)) hrest]
      rfl
  case ready =>
    rintro ⟨arm?, held⟩ member others (⟨-, hothers⟩ | hothers)
    · obtain ⟨-, rfl⟩ := List.cons.inj hothers
      exact Or.inr fun _ h => h
    · exact Or.inr fun other hother => hothers other (List.mem_cons_of_mem _ hother)
  rw [List.foldl_cons, setAside, if_pos rfl, foldl_setAside htag, List.append_nil]
  change (inText (arm.ofMembers members.reverse.reverse) >>= _) = _
  rw [List.reverse_reverse, hof]
  rfl

/-- The value of an arm is reread when the record that it carries comes back from the members that
are set aside. -/
theorem rereads_arm (record : ρ) {arm : Arm ε} {name title heading : String} {fields : Fields ρ ρ τ}
    {make : τ} {wrap : ρ → ε} {unwrap? : ε → Option ρ}
    (harm : arm = .ofFields name title fields make wrap unwrap?)
    (hpick : pick (armsByName arms) arm.name = .ok arm)
    (hencode : encodeTagged tag value arms = .obj ((tag, .str arm.name) :: fields.encode record))
    (hwrap : wrap record = value) (hexact : fields.IsExact make) (htag : tag ∉ fields.names)
    (hrestored : fields.Restored depth record) :
    (tagged heading tag arms).Rereads (depth + 1) value := by
  refine rereads_tagged hpick hencode
    (fun member hmember hsame => htag (hsame ▸ Fields.mem_names hmember))
    (fun member hmember => hrestored.fits hmember) ?_ heading
  subst harm
  change wrap <$> fields.ofMembers make (fields.encode record) = _
  rw [Fields.ofMembers_encode hexact.distinct hrestored, hexact.build_valuesOf, ← hwrap]
  rfl

end Tagged

end Codec

end KnowledgeSchema
