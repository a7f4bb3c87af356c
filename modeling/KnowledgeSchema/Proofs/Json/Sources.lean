import KnowledgeSchema.Proofs.Json.Records

/-!
# Where the values of a record come from

The record that a codec reads is made of values that the codecs of its fields read, and of values
that stand for fields left out. The same holds of a record that is taken from members that were set
aside. Neither the order of the fields nor the form of the record matters.
-/

namespace KnowledgeSchema

open Json

namespace Codec

variable {α β : Type} {codec : Codec α} {depth : Nat}

/-- Whether a codec can give a value at a depth, for a text or for nothing. -/
def MayGiveAt (depth : Nat) (codec : Codec α) (value : α) : Prop :=
  (∃ input rest, codec.read depth input = .ok (value, rest)) ∨ codec.absent = some value

/-- Whether a codec can give a value for JSON that was set aside, or for nothing. -/
def MayTake (codec : Codec α) (value : α) : Prop :=
  (∃ json, codec.ofJson json = .ok value) ∨ codec.absent = some value

/-! ### Steps of a reader -/

theorem eq_ok_of_inText {outcome : Except Reason α} {value : α}
    (hvalue : inText outcome = .ok value) : outcome = .ok value := by
  cases outcome with
  | ok found =>
    cases hvalue
    rfl
  | error reason => cases hvalue

theorem descend_eq_ok {below : Nat} (hdescend : descend depth = .ok below) : depth = below + 1 := by
  cases depth with
  | zero => cases hdescend
  | succ depth =>
    cases hdescend
    rfl

/-! ### Values of codecs -/

theorem mayGiveAt_of_parse {text : String} {value : α} (hparse : codec.parse text = .ok value) :
    codec.MayGiveAt maxDepth value := by
  rw [parse] at hparse
  obtain ⟨⟨found, rest⟩, hread, hend⟩ := Outcome.bind_eq_ok.mp hparse
  dsimp only at hend
  split at hend
  · cases hend
    exact Or.inl ⟨_, _, hread⟩
  · cases hend

/-- A value that is read where none is left out is read from something else than the word for
nothing. -/
theorem optional_eq_some {value : α} (hgives : codec.optional.MayGiveAt depth (some value)) :
    ∃ input rest, (∀ after, skipSpace input ≠ 'n' :: after) ∧
      codec.read depth input = .ok (value, rest) := by
  rcases hgives with ⟨input, rest, hread⟩ | habsent
  · simp only [optional] at hread
    split at hread
    · obtain ⟨after, -, hvalue⟩ := Outcome.bind_eq_ok.mp hread
      cases hvalue
    next hother =>
      obtain ⟨⟨found, after⟩, hfound, hvalue⟩ := Outcome.bind_eq_ok.mp hread
      cases hvalue
      refine ⟨_, _, fun after hskip => hother after ?_, hfound⟩
      rwa [skipSpace_skipSpace] at hskip
  · cases habsent

theorem mayGiveAt_of_map {of : α → β} {back : β → α} {value : β}
    (hgives : (codec.map of back).MayGiveAt depth value) :
    ∃ original, codec.MayGiveAt depth original ∧ of original = value := by
  rcases hgives with ⟨input, rest, hread⟩ | habsent
  · obtain ⟨⟨original, after⟩, hread, hvalue⟩ := Outcome.bind_eq_ok.mp hread
    cases hvalue
    exact ⟨original, Or.inl ⟨_, _, hread⟩, rfl⟩
  · obtain ⟨original, hnothing, hvalue⟩ := Option.map_eq_some_iff.mp habsent
    exact ⟨original, Or.inr hnothing, hvalue⟩

theorem mayTake_of_map {of : α → β} {back : β → α} {value : β}
    (htake : (codec.map of back).MayTake value) :
    ∃ original, codec.MayTake original ∧ of original = value := by
  rcases htake with ⟨json, hof⟩ | habsent
  · obtain ⟨original, hof, hvalue⟩ := Outcome.map_eq_ok.mp hof
    exact ⟨original, Or.inl ⟨_, hof⟩, hvalue⟩
  · obtain ⟨original, hnothing, hvalue⟩ := Option.map_eq_some_iff.mp habsent
    exact ⟨original, Or.inr hnothing, hvalue⟩

theorem mayGiveAt_of_list {items : List α} (hgives : (list codec).MayGiveAt depth items) :
    ∃ below, depth = below + 1 ∧ ∀ item ∈ items, codec.MayGiveAt below item := by
  rcases hgives with ⟨input, rest, hread⟩ | habsent
  · obtain ⟨⟨head, after⟩, -, hread⟩ := Outcome.bind_eq_ok.mp hread
    cases head with
    | scalar value => cases hread
    | object => cases hread
    | array =>
      obtain ⟨below, hbelow, hread⟩ := Outcome.bind_eq_ok.mp hread
      obtain ⟨⟨found, left⟩, harray, hitems⟩ := Outcome.bind_eq_ok.mp hread
      cases hitems
      obtain ⟨⟨last, remaining⟩, hfold, hclose⟩ := Outcome.bind_eq_ok.mp harray
      obtain ⟨closed, -, hfound⟩ := Outcome.bind_eq_ok.mp hclose
      cases hfound
      refine ⟨below, descend_eq_ok hbelow, fun item hitem => ?_⟩
      refine foldItems_invariant (fun items => ∀ item ∈ items, codec.MayGiveAt below item) ?_ ?_
        hfold item (List.mem_reverse.mp hitem)
      · intro state input next left hstate hstep
        obtain ⟨⟨value, after⟩, hread, hnext⟩ := Outcome.bind_eq_ok.mp hstep
        cases hnext
        exact List.forall_mem_cons.mpr ⟨Or.inl ⟨_, _, hread⟩, hstate⟩
      · exact fun item hitem => nomatch hitem
  · cases habsent

end Codec

/-! ### Fields -/

namespace Fields

open Codec

variable {ρ σ τ : Type} {fields : Fields ρ σ τ} {make : τ} {depth : Nat} {input left : List Char}
  {result : σ}

section From

variable (gives : {α : Type} → Codec α → α → Prop)

/-- Whether the values read so far are such as the codecs of the fields give. -/
def Filled {τ : Type} : (fields : Fields ρ σ τ) → fields.Slots → Prop
  | .done, _ => True
  | .field _ codec _ _ rest, slots => (∀ value ∈ slots.1, gives codec value) ∧ rest.Filled slots.2

/-- Whether values are such as the codecs of the fields give or stand for fields left out. -/
def From {τ : Type} : (fields : Fields ρ σ τ) → fields.Values → Prop
  | .done, _ => True
  | .field _ codec _ fallback rest, values =>
    (gives codec values.1 ∨ fallback = some values.1) ∧ rest.From values.2

variable {gives}

theorem filled_noSlots (fields : Fields ρ σ τ) : fields.Filled gives fields.noSlots := by
  induction fields with
  | done => trivial
  | field name codec get fallback rest ih => exact ⟨fun value hvalue => (nomatch hvalue), ih⟩

theorem From.mono {gives' : {α : Type} → Codec α → α → Prop} {values : fields.Values}
    (hfrom : fields.From gives values)
    (himplies : ∀ {α : Type} (codec : Codec α) value, gives codec value → gives' codec value) :
    fields.From gives' values := by
  induction fields with
  | done => trivial
  | field name codec get fallback rest ih =>
    exact ⟨hfrom.1.imp_left (himplies codec _), ih hfrom.2⟩

theorem Filled.finish {slots : fields.Slots} (hfilled : fields.Filled gives slots)
    (habsent : ∀ {α : Type} (codec : Codec α) value, codec.absent = some value → gives codec value)
    (hfinish : fields.finish make slots = .ok result) :
    ∃ values, fields.build make values = result ∧ fields.From gives values := by
  induction fields with
  | done =>
    cases hfinish
    exact ⟨(), rfl, trivial⟩
  | field name codec get fallback rest ih =>
    rw [Fields.finish] at hfinish
    split at hfinish
    next value hvalue =>
      obtain ⟨values, hbuild, hfrom⟩ := ih hfilled.2 hfinish
      refine ⟨(value, values), hbuild, ?_, hfrom⟩
      dsimp only
      cases hslot : slots.1 with
      | some found =>
        rw [hslot] at hvalue
        obtain rfl := Option.some.inj hvalue
        exact Or.inl (hfilled.1 found hslot)
      | none =>
        rw [hslot] at hvalue
        cases hfallback : fallback with
        | some found =>
          rw [hfallback] at hvalue
          exact Or.inr hvalue
        | none =>
          rw [hfallback] at hvalue
          exact Or.inl (habsent codec value hvalue)
    · cases hfinish

end From

/-! ### Values from a text -/

theorem Filled.readInto {name : String} {slots after : fields.Slots}
    (hfilled : fields.Filled (MayGiveAt depth) slots)
    (hread : fields.readInto name depth slots input = .ok (after, left)) :
    fields.Filled (MayGiveAt depth) after := by
  induction fields generalizing input left with
  | done => trivial
  | field other codec get fallback rest ih =>
    rw [Fields.readInto] at hread
    split_ifs at hread
    · obtain ⟨⟨value, next⟩, hvalue, hafter⟩ := Outcome.bind_eq_ok.mp hread
      cases hafter
      refine ⟨fun found hfound => ?_, hfilled.2⟩
      obtain rfl := Option.some.inj hfound
      exact Or.inl ⟨_, _, hvalue⟩
    · obtain ⟨⟨others, next⟩, hothers, hafter⟩ := Outcome.bind_eq_ok.mp hread
      cases hafter
      exact ⟨hfilled.1, ih hfilled.2 hothers⟩

theorem filled_readMembers {closed : Bool} {slots : fields.Slots}
    (hread : fields.readMembers closed depth input = .ok (slots, left)) :
    fields.Filled (MayGiveAt depth) slots := by
  obtain ⟨⟨last, remaining⟩, hfold, hclose⟩ := Outcome.bind_eq_ok.mp hread
  obtain ⟨after, -, hslots⟩ := Outcome.bind_eq_ok.mp hclose
  cases hslots
  refine foldMembers_invariant (fields.Filled (MayGiveAt depth)) ?_ fields.filled_noSlots hfold
  intro state name input next left hstate hstep
  split_ifs at hstep
  · cases hstep
  · obtain ⟨after, -, hstep⟩ := Outcome.bind_eq_ok.mp hstep
    exact hstate.readInto hstep
  · cases hstep
  · obtain ⟨after, -, hstep⟩ := Outcome.bind_eq_ok.mp hstep
    obtain ⟨skipped, -, hstep⟩ := Outcome.bind_eq_ok.mp hstep
    cases hstep
    exact hstate

theorem from_readItems {wanted : String} {index : Nat}
    (hread : fields.readItems wanted depth make index input = .ok (result, left)) :
    ∃ values, fields.build make values = result ∧ fields.From (MayGiveAt depth) values := by
  induction fields generalizing index input with
  | done =>
    cases hread
    exact ⟨(), rfl, trivial⟩
  | field name codec get fallback rest ih =>
    simp only [Fields.readItems] at hread
    obtain ⟨next?, -, hread⟩ := Outcome.bind_eq_ok.mp hread
    cases next? with
    | some next =>
      obtain ⟨⟨value, after⟩, hvalue, hrest⟩ := Outcome.bind_eq_ok.mp hread
      obtain ⟨values, hbuild, hfrom⟩ := ih hrest
      exact ⟨(value, values), hbuild, Or.inl (Or.inl ⟨_, _, hvalue⟩), hfrom⟩
    | none =>
      cases fallback with
      | some value =>
        obtain ⟨values, hbuild, hfrom⟩ := ih hread
        exact ⟨(value, values), hbuild, Or.inr rfl, hfrom⟩
      | none => cases hread

/-! ### Values set aside -/

theorem Filled.takeInto {name : String} {json : Json} {slots after : fields.Slots}
    (hfilled : fields.Filled MayTake slots)
    (htake : fields.takeInto name json slots = .ok after) : fields.Filled MayTake after := by
  induction fields with
  | done => trivial
  | field other codec get fallback rest ih =>
    rw [Fields.takeInto] at htake
    split_ifs at htake
    · obtain ⟨value, hvalue, hafter⟩ := Outcome.bind_eq_ok.mp htake
      cases hafter
      refine ⟨fun found hfound => ?_, hfilled.2⟩
      obtain rfl := Option.some.inj hfound
      exact Or.inl ⟨_, hvalue⟩
    · obtain ⟨others, hothers, hafter⟩ := Outcome.bind_eq_ok.mp htake
      cases hafter
      exact ⟨hfilled.1, ih hfilled.2 hothers⟩

theorem from_ofMembers {members : List (String × Json)}
    (hof : fields.ofMembers make members = .ok result) :
    ∃ values, fields.build make values = result ∧ fields.From MayTake values := by
  obtain ⟨slots, hfold, hfinish⟩ := Outcome.bind_eq_ok.mp hof
  refine Filled.finish ?_ (fun _ _ habsent => Or.inr habsent) hfinish
  have hall : ∀ (members : List (String × Json)) (start : fields.Slots),
      fields.Filled MayTake start →
      members.foldlM (fun slots member =>
        if !fields.names.contains member.1 then .ok slots
        else if fields.isRead member.1 slots then .error (.duplicateField member.1)
        else fields.takeInto member.1 member.2 slots) start = Except.ok slots →
      fields.Filled MayTake slots := by
    intro members
    induction members with
    | nil =>
      intro start hstart hfold
      cases hfold
      exact hstart
    | cons member members ih =>
      intro start hstart hfold
      obtain ⟨between, hstep, hfold⟩ := Outcome.bind_eq_ok.mp hfold
      refine ih between ?_ hfold
      dsimp only at hstep
      split_ifs at hstep
      · cases hstep
        exact hstart
      · exact hstart.takeInto hstep
  exact hall members _ fields.filled_noSlots hfold

theorem from_ofItems {wanted : String} {index : Nat} {items : List Json}
    (hof : fields.ofItems wanted make index items = .ok result) :
    ∃ values, fields.build make values = result ∧ fields.From MayTake values := by
  induction fields generalizing index items with
  | done =>
    cases items with
    | nil =>
      cases hof
      exact ⟨(), rfl, trivial⟩
    | cons item items => cases hof
  | field name codec get fallback rest ih =>
    cases items with
    | cons item items =>
      obtain ⟨value, hvalue, hrest⟩ := Outcome.bind_eq_ok.mp hof
      obtain ⟨values, hbuild, hfrom⟩ := ih hrest
      exact ⟨(value, values), hbuild, Or.inl (Or.inl ⟨_, hvalue⟩), hfrom⟩
    | nil =>
      cases fallback with
      | some value =>
        obtain ⟨values, hbuild, hfrom⟩ := ih hof
        exact ⟨(value, values), hbuild, Or.inr rfl, hfrom⟩
      | none => cases hof

end Fields

/-! ### Records -/

namespace Codec

open Fields

variable {ρ τ : Type} {depth : Nat} {input left : List Char} {record : ρ}

theorem from_read_record {name : String} {closed : Bool} {fields : Fields ρ ρ τ} {make : τ}
    (hread : (Codec.record name closed fields make).read depth input = .ok (record, left)) :
    ∃ below values, depth = below + 1 ∧ fields.build make values = record ∧
      fields.From (MayGiveAt below) values := by
  obtain ⟨⟨head, after⟩, -, hread⟩ := Outcome.bind_eq_ok.mp hread
  cases head with
  | scalar value => cases hread
  | array =>
    obtain ⟨below, hbelow, hread⟩ := Outcome.bind_eq_ok.mp hread
    obtain ⟨⟨result, next⟩, hitems, hclose⟩ := Outcome.bind_eq_ok.mp hread
    obtain ⟨closed, -, hvalue⟩ := Outcome.bind_eq_ok.mp hclose
    cases hvalue
    obtain ⟨values, hbuild, hfrom⟩ := from_readItems hitems
    exact ⟨below, values, descend_eq_ok hbelow, hbuild, hfrom⟩
  | object =>
    obtain ⟨below, hbelow, hread⟩ := Outcome.bind_eq_ok.mp hread
    obtain ⟨⟨slots, next⟩, hmembers, hfinish⟩ := Outcome.bind_eq_ok.mp hread
    obtain ⟨result, hresult, hvalue⟩ := Outcome.bind_eq_ok.mp hfinish
    cases hvalue
    obtain ⟨values, hbuild, hfrom⟩ := (filled_readMembers hmembers).finish
      (fun _ _ habsent => Or.inr habsent) (eq_ok_of_inText hresult)
    exact ⟨below, values, descend_eq_ok hbelow, hbuild, hfrom⟩

theorem from_read_extended {δ υ : Type} {name : String} {inner : Fields δ δ υ} {makeInner : υ}
    {own : Fields ρ (δ → ρ) τ} {make : τ} {part : ρ → δ}
    (hread : (extended name inner makeInner own make part).read depth input = .ok (record, left)) :
    ∃ below values others, depth = below + 1 ∧
      own.build make values (inner.build makeInner others) = record ∧
      own.From (MayGiveAt below) values ∧ inner.From MayTake others := by
  obtain ⟨⟨head, after⟩, -, hread⟩ := Outcome.bind_eq_ok.mp hread
  cases head with
  | scalar value => cases hread
  | array => cases hread
  | object =>
    obtain ⟨below, hbelow, hread⟩ := Outcome.bind_eq_ok.mp hread
    obtain ⟨⟨⟨slots, held⟩, next⟩, hmembers, hread⟩ := Outcome.bind_eq_ok.mp hread
    obtain ⟨build, hown, hread⟩ := Outcome.bind_eq_ok.mp hread
    obtain ⟨innerRecord, hinner, hvalue⟩ := Outcome.bind_eq_ok.mp hread
    cases hvalue
    obtain ⟨others, hothers, hinnerFrom⟩ := from_ofMembers (eq_ok_of_inText hinner)
    obtain ⟨⟨last, remaining⟩, hfold, hclose⟩ := Outcome.bind_eq_ok.mp hmembers
    obtain ⟨rest, -, hlast⟩ := Outcome.bind_eq_ok.mp hclose
    cases hlast
    have hfilled : own.Filled (MayGiveAt below) slots := by
      refine @foldMembers_invariant _ _ _ _ (fun state => own.Filled (MayGiveAt below) state.1)
        ?_ _ _ _ (slots, held) own.filled_noSlots hfold
      rintro ⟨slots, held⟩ name input ⟨after, kept⟩ rest hstate hstep
      dsimp only at hstep
      split_ifs at hstep
      · cases hstep
      · obtain ⟨colon, -, hstep⟩ := Outcome.bind_eq_ok.mp hstep
        obtain ⟨⟨filled, rest⟩, hinto, hstep⟩ := Outcome.bind_eq_ok.mp hstep
        cases hstep
        exact hstate.readInto hinto
      · obtain ⟨colon, -, hstep⟩ := Outcome.bind_eq_ok.mp hstep
        obtain ⟨⟨value, rest⟩, -, hstep⟩ := Outcome.bind_eq_ok.mp hstep
        cases hstep
        exact hstate
    obtain ⟨values, hbuild, hfrom⟩ := hfilled.finish (fun _ _ habsent => Or.inr habsent)
      (eq_ok_of_inText hown)
    exact ⟨below, values, others, descend_eq_ok hbelow, by rw [hbuild, hothers], hfrom, hinnerFrom⟩

theorem mem_of_pick {known : List (String × τ)} {name : String} {chosen : τ}
    (hpick : pick known name = .ok chosen) : chosen ∈ known.map (·.2) := by
  rw [pick] at hpick
  split at hpick
  next found hlookup =>
    cases hpick
    obtain ⟨first, rest, rfl, -⟩ := List.lookup_eq_some_iff.mp hlookup
    simp
  next => cases hpick

theorem mem_arms_of_readVariant {ε : Type} {arms : List (Arm ε)} {arm : Arm ε}
    (hread : readVariant (armsByName arms) input = .ok (arm, left)) : arm ∈ arms := by
  obtain ⟨⟨head, rest⟩, -, hread⟩ := Outcome.bind_eq_ok.mp hread
  split at hread
  · obtain ⟨chosen, hchosen, hread⟩ := Outcome.bind_eq_ok.mp hread
    cases hread
    have hmem := mem_of_pick (eq_ok_of_inText hchosen)
    rwa [armsByName, List.map_map, List.map_id''] at hmem
    exact fun _ => rfl
  · cases hread

/-- A tagged record comes from one of its arms. -/
theorem from_read_tagged {ε : Type} {title tag : String} {arms : List (Arm ε)} {value : ε}
    (hread : (tagged title tag arms).read depth input = .ok (value, left)) :
    ∃ arm ∈ arms, (∃ members, arm.ofMembers members = .ok value) ∨
      ∃ items, arm.ofItems items = .ok value := by
  obtain ⟨⟨head, after⟩, -, hread⟩ := Outcome.bind_eq_ok.mp hread
  cases head with
  | scalar value => cases hread
  | object =>
    obtain ⟨below, -, hread⟩ := Outcome.bind_eq_ok.mp hread
    obtain ⟨⟨⟨arm?, held⟩, next⟩, hmembers, hread⟩ := Outcome.bind_eq_ok.mp hread
    obtain ⟨⟨last, remaining⟩, hfold, hclose⟩ := Outcome.bind_eq_ok.mp hmembers
    obtain ⟨rest, -, hlast⟩ := Outcome.bind_eq_ok.mp hclose
    cases hlast
    cases arm? with
    | none => cases hread
    | some arm =>
      obtain ⟨found, hfound, hvalue⟩ := Outcome.bind_eq_ok.mp hread
      cases hvalue
      have harm : ∀ arm' ∈ (some arm, held).1, arm' ∈ arms := by
        refine foldMembers_invariant
          (fun state : Option (Arm ε) × List (String × Json) => ∀ arm ∈ state.1, arm ∈ arms)
          ?_ (by simp) hfold
        rintro ⟨arm?, held⟩ name input ⟨after, kept⟩ rest hstate hstep
        dsimp only at hstep
        split_ifs at hstep
        · cases hstep
        · obtain ⟨colon, -, hstep⟩ := Outcome.bind_eq_ok.mp hstep
          obtain ⟨⟨chosen, rest⟩, hchosen, hstep⟩ := Outcome.bind_eq_ok.mp hstep
          cases hstep
          intro other hother
          obtain rfl := Option.some.inj hother
          exact mem_arms_of_readVariant hchosen
        · obtain ⟨colon, -, hstep⟩ := Outcome.bind_eq_ok.mp hstep
          obtain ⟨⟨value, rest⟩, -, hstep⟩ := Outcome.bind_eq_ok.mp hstep
          cases hstep
          exact hstate
      exact ⟨arm, harm arm rfl, Or.inl ⟨_, eq_ok_of_inText hfound⟩⟩
  | array =>
    obtain ⟨below, -, hread⟩ := Outcome.bind_eq_ok.mp hread
    obtain ⟨next?, -, hread⟩ := Outcome.bind_eq_ok.mp hread
    cases next? with
    | none => cases hread
    | some next =>
      obtain ⟨⟨arm, afterArm⟩, harm, hread⟩ := Outcome.bind_eq_ok.mp hread
      obtain ⟨⟨items, afterItems⟩, -, hread⟩ := Outcome.bind_eq_ok.mp hread
      obtain ⟨closed, -, hread⟩ := Outcome.bind_eq_ok.mp hread
      obtain ⟨found, hfound, hvalue⟩ := Outcome.bind_eq_ok.mp hread
      cases hvalue
      exact ⟨arm, mem_arms_of_readVariant harm, Or.inr ⟨_, eq_ok_of_inText hfound⟩⟩

theorem from_arm {ε : Type} {name title : String} {fields : Fields ρ ρ τ} {make : τ} {wrap : ρ → ε}
    {unwrap? : ε → Option ρ} {arm : Arm ε} {value : ε}
    (harm : arm = .ofFields name title fields make wrap unwrap?)
    (hof : (∃ members, arm.ofMembers members = .ok value) ∨
      ∃ items, arm.ofItems items = .ok value) :
    ∃ values, wrap (fields.build make values) = value ∧ fields.From MayTake values := by
  subst harm
  rcases hof with ⟨members, hof⟩ | ⟨items, hof⟩
  · obtain ⟨record, hrecord, rfl⟩ := Outcome.map_eq_ok.mp hof
    obtain ⟨values, rfl, hfrom⟩ := from_ofMembers hrecord
    exact ⟨values, rfl, hfrom⟩
  · obtain ⟨record, hrecord, rfl⟩ := Outcome.map_eq_ok.mp hof
    obtain ⟨values, rfl, hfrom⟩ := from_ofItems hrecord
    exact ⟨values, rfl, hfrom⟩

end Codec

end KnowledgeSchema
