import KnowledgeSchema.Json.Codec
import KnowledgeSchema.Proofs.Json.Scalars

/-!
# Values read where they were written

A value that a reader can give is read again from its own text, provided that each of its doubles is
read again from the text of that double alone.
-/

namespace KnowledgeSchema

namespace Json

/-- Whether a double is what its own text is read as. -/
def ReadsBack (x : Double) : Prop :=
  readHead (writeReal x) = .ok (.scalar (.real x), [])

mutual

def doubles : Json → List Double
  | .real x => [x]
  | .arr items => itemDoubles items
  | .obj members => memberDoubles members
  | _ => []

def itemDoubles : List Json → List Double
  | [] => []
  | value :: rest => doubles value ++ itemDoubles rest

def memberDoubles : List (String × Json) → List Double
  | [] => []
  | (_, value) :: rest => doubles value ++ memberDoubles rest

end

/-- A value all of whose doubles are read back. -/
def IsSteady (value : Json) : Prop :=
  ∀ x ∈ value.doubles, ReadsBack x

/-- A value all of whose doubles are finite. -/
def IsFinite (value : Json) : Prop :=
  ∀ x ∈ value.doubles, x.isFinite = true

/-- A value kept for its content, with at most `depth` containers inside each other: integers are
those of one machine word, and the members of objects are in the order of their keys. -/
def Fits : Nat → Json → Prop
  | _, .int n => -9223372036854775808 ≤ n ∧ n ≤ 18446744073709551615
  | depth + 1, .arr items => ∀ item ∈ items, Fits depth item
  | depth + 1, .obj members =>
    members.Pairwise (fun first second => first.1 < second.1) ∧
      ∀ member ∈ members, Fits depth member.2
  | 0, .arr _ => False
  | 0, .obj _ => False
  | _, _ => True

variable {items : List Json} {members : List (String × Json)} {rest : List Char} {depth : Nat}

theorem mem_itemDoubles {x : Double} :
    x ∈ itemDoubles items ↔ ∃ item ∈ items, x ∈ doubles item := by
  induction items with
  | nil => simp [itemDoubles]
  | cons item rest ih => rw [itemDoubles, List.mem_append, ih, List.exists_mem_cons_iff]

theorem mem_memberDoubles {x : Double} :
    x ∈ memberDoubles members ↔ ∃ member ∈ members, x ∈ doubles member.2 := by
  induction members with
  | nil => simp [memberDoubles]
  | cons member rest ih => rw [memberDoubles, List.mem_append, ih, List.exists_mem_cons_iff]

theorem IsSteady.item (hsteady : (arr items).IsSteady) {item : Json} (hitem : item ∈ items) :
    item.IsSteady :=
  fun x hx => hsteady x (mem_itemDoubles.mpr ⟨item, hitem, hx⟩)

theorem IsSteady.member (hsteady : (obj members).IsSteady) {member : String × Json}
    (hmember : member ∈ members) : member.2.IsSteady :=
  fun x hx => hsteady x (mem_memberDoubles.mpr ⟨member, hmember, hx⟩)

theorem isSteady_arr (hitems : ∀ item ∈ items, item.IsSteady) : (arr items).IsSteady := by
  intro x hx
  obtain ⟨item, hitem, hx⟩ := mem_itemDoubles.mp hx
  exact hitems item hitem x hx

theorem isFinite_arr (hitems : ∀ item ∈ items, item.IsFinite) : (arr items).IsFinite := by
  intro x hx
  obtain ⟨item, hitem, hx⟩ := mem_itemDoubles.mp hx
  exact hitems item hitem x hx

theorem isFinite_obj (hmembers : ∀ member ∈ members, member.2.IsFinite) :
    (obj members).IsFinite := by
  intro x hx
  obtain ⟨member, hmember, hx⟩ := mem_memberDoubles.mp hx
  exact hmembers member hmember x hx

/-! ### Heads -/

theorem readValue_skipSpace (depth : Nat) (input : List Char) :
    readValue depth (skipSpace input) = readValue depth input := by
  cases depth with
  | zero => rw [readValue, readHead_skipSpace, readValue]
  | succ depth => rw [readValue, readHead_skipSpace, readValue]

theorem readValue_of_scalar {value : Json} (depth : Nat) {input left : List Char}
    (hhead : readHead input = .ok (.scalar value, left)) :
    readValue depth input = .ok (value, left) := by
  cases depth with
  | zero =>
    rw [readValue, hhead]
    rfl
  | succ depth =>
    rw [readValue, hhead]
    rfl

/-- A text from which a value is read begins with it. -/
theorem skipSpace_of_readValue {input left : List Char} {value : Json}
    (hread : readValue depth input = .ok (value, left)) :
    ∃ c rest, skipSpace input = c :: rest ∧ c ≠ ']' := by
  cases hskip : skipSpace input with
  | nil =>
    rw [← readValue_skipSpace, hskip] at hread
    cases depth <;> cases hread
  | cons c rest =>
    refine ⟨c, rest, rfl, ?_⟩
    rintro rfl
    rw [← readValue_skipSpace, hskip] at hread
    cases depth <;> cases hread

/-! ### Arrays -/

theorem nextItem_value {input left : List Char} {value : Json} (first : Bool)
    (hread : readValue depth input = .ok (value, left)) :
    nextItem first ((if first then [] else [',']) ++ input) = .ok (some (skipSpace input)) := by
  obtain ⟨c, rest, hskip, hbracket⟩ := skipSpace_of_readValue hread
  cases first with
  | true =>
    rw [if_pos rfl, List.nil_append, nextItem, hskip]
    split
    next heq => cases heq
    next heq =>
      cases heq
      exact absurd rfl hbracket
    next heq => 
      cases heq
      rfl
  | false =>
    rw [if_neg Bool.false_ne_true, List.singleton_append, nextItem, skipSpace_cons (by decide)]
    split
    next heq => cases heq
    next heq => cases heq
    next heq =>
      cases heq
      rw [if_neg Bool.false_ne_true, if_pos rfl, hskip]
      split
      next heq => cases heq
      next heq =>
        cases heq
        exact absurd rfl hbracket
      next => rfl

theorem endsNumber_writeItems (items : List Json) (rest : List Char) :
    EndsNumber (writeItems false items ++ rest) := by
  intro c hc
  cases items with
  | nil =>
    cases hc
    decide
  | cons item items =>
    cases hc
    decide

theorem length_lt_writeItems (first : Bool) (items : List Json) :
    items.length < (writeItems first items).length + (if first then 1 else 0) := by
  induction items generalizing first with
  | nil => cases first <;> decide
  | cons item items ih =>
    have hrest := ih false
    cases first <;> simp [writeItems] at hrest ⊢ <;> omega

theorem foldItems_encoded {α σ : Type} {encode : α → Json} {push : σ → α → σ} {step : σ → Reader σ}
    {items : List α}
    (hnext : ∀ item ∈ items, ∀ first rest, EndsNumber rest →
      nextItem first ((if first then [] else [',']) ++ (write (encode item) ++ rest)) =
        .ok (some (skipSpace (write (encode item) ++ rest))))
    (hstep : ∀ item ∈ items, ∀ state rest, EndsNumber rest →
      step state (skipSpace (write (encode item) ++ rest)) = .ok (push state item, rest))
    (fuel : Nat) (hfuel : items.length < fuel) (first : Bool) (state : σ) (rest : List Char) :
    foldItems step fuel first state (writeItems first (items.map encode) ++ rest) =
      .ok (items.foldl push state, ']' :: rest) := by
  induction items generalizing fuel first state with
  | nil =>
    cases fuel with
    | zero => cases hfuel
    | succ fuel => cases first <;> rfl
  | cons item items ih =>
    cases fuel with
    | zero => cases hfuel
    | succ fuel =>
      have hends := endsNumber_writeItems (items.map encode) rest
      rw [List.map_cons, writeItems, List.append_assoc, List.append_assoc, foldItems,
        hnext item List.mem_cons_self first _ hends]
      change (step state (skipSpace _) >>= _) = _
      rw [hstep item List.mem_cons_self state _ hends]
      exact ih (fun other hother => hnext other (List.mem_cons_of_mem _ hother))
        (fun other hother => hstep other (List.mem_cons_of_mem _ hother)) fuel
        (Nat.lt_of_succ_lt_succ hfuel) false (push state item)

/-- Written items are gone over one after another, by a step that takes each of them whole. -/
theorem readArray_write {α σ : Type} {encode : α → Json} {push : σ → α → σ} {step : σ → Reader σ}
    {items : List α}
    (hnext : ∀ item ∈ items, ∀ first rest, EndsNumber rest →
      nextItem first ((if first then [] else [',']) ++ (write (encode item) ++ rest)) =
        .ok (some (skipSpace (write (encode item) ++ rest))))
    (hstep : ∀ item ∈ items, ∀ state rest, EndsNumber rest →
      step state (skipSpace (write (encode item) ++ rest)) = .ok (push state item, rest))
    (state : σ) (rest : List Char) :
    readArray step state (writeItems true (items.map encode) ++ rest) =
      .ok (items.foldl push state, rest) := by
  have hlength := length_lt_writeItems true (items.map encode)
  rw [List.length_map, if_pos rfl] at hlength
  rw [readArray, foldItems_encoded hnext hstep _ (by rw [List.length_append]; omega)]
  rfl

/-! ### Objects -/

theorem nextKey_writeText (first : Bool) (key : String) (rest : List Char) :
    nextKey first ((if first then [] else [',']) ++ (writeText key ++ rest)) =
      .ok (some (key, rest)) := by
  obtain ⟨escaped, hescaped, hread⟩ := readText_writeText key rest
  rw [hescaped]
  cases first with
  | true =>
    change (do .ok (some (← readText (escaped ++ rest)))) = _
    rw [hread]
    rfl
  | false =>
    change (do .ok (some (← readText (escaped ++ rest)))) = _
    rw [hread]
    rfl

theorem endsNumber_writeMembers (members : List (String × Json)) (rest : List Char) :
    EndsNumber (writeMembers false members ++ rest) := by
  intro c hc
  cases members with
  | nil =>
    cases hc
    decide
  | cons member members =>
    cases hc
    decide

theorem length_lt_writeMembers (first : Bool) (members : List (String × Json)) :
    members.length < (writeMembers first members).length + (if first then 1 else 0) := by
  induction members generalizing first with
  | nil => cases first <;> decide
  | cons member members ih =>
    obtain ⟨key, value⟩ := member
    have hrest := ih false
    cases first <;> simp [writeMembers] at hrest ⊢ <;> omega

theorem foldMembers_member {σ : Type} {step : σ → String → Reader σ} {state next : σ} {key : String} {rest : List Char} {fuel : Nat}
    (hstep : step state key (':' :: (write value ++ (writeMembers false members ++ rest))) =
      .ok (next, writeMembers false members ++ rest)) (first : Bool) :
    foldMembers step (fuel + 1) first state (writeMembers first ((key, value) :: members) ++ rest) =
      foldMembers step fuel false next (writeMembers false members ++ rest) := by
  have hkey := nextKey_writeText first key
    (':' :: (write value ++ (writeMembers false members ++ rest)))
  rw [writeMembers]
  simp only [List.append_assoc, List.cons_append]
  rw [foldMembers, hkey]
  change step state key _ >>= _ = _
  rw [hstep]
  rfl

/-- Written members are gone over one after another, by a step that takes each of them whole. -/
theorem readObject_write {σ : Type} {step : σ → String → Reader σ} (push : σ → String × Json → σ) (ready : σ → List (String × Json) → Prop)
    (hstep : ∀ state member members rest, ready state (member :: members) → EndsNumber rest →
      step state member.1 (':' :: (write member.2 ++ rest)) = .ok (push state member, rest))
    (hready : ∀ state member members, ready state (member :: members) →
      ready (push state member) members)
    {start : σ} (hstart : ready start members) (rest : List Char) :
    readObject step start (writeMembers true members ++ rest) =
      .ok (members.foldl push start, rest) := by
  have hfold : ∀ (members : List (String × Json)) fuel first state, ready state members →
      members.length < fuel →
      foldMembers step fuel first state (writeMembers first members ++ rest) =
        .ok (members.foldl push state, '\x7d' :: rest) := by
    intro members
    induction members with
    | nil =>
      intro fuel first state _ hfuel
      cases fuel with
      | zero => cases hfuel
      | succ fuel => cases first <;> rfl
    | cons member members ih =>
      intro fuel first state hstate hfuel
      cases fuel with
      | zero => cases hfuel
      | succ fuel =>
        rw [foldMembers_member (hstep state member members _ hstate
          (endsNumber_writeMembers members rest)) first]
        exact ih fuel false _ (hready state member members hstate) (Nat.lt_of_succ_lt_succ hfuel)
  have hlength := length_lt_writeMembers true members
  rw [readObject, hfold members _ true start hstart (by
    rw [List.length_append]
    simp only [if_true] at hlength
    omega)]
  rfl

/-! ### Values -/

theorem readHead_writeText (text : String) (rest : List Char) :
    readHead (writeText text ++ rest) = .ok (.scalar (.str text), rest) := by
  obtain ⟨escaped, hescaped, hread⟩ := readText_writeText text rest
  rw [hescaped]
  change (readText (escaped ++ rest) >>= fun read => .ok (Head.scalar (.str read.1), read.2)) = _
  rw [hread]
  rfl

/-- A value that is no container is written up to its end. -/
theorem readHead_write {value : Json} (harr : ∀ items, value ≠ .arr items)
    (hobj : ∀ members, value ≠ .obj members) (hfits : value.Fits depth) (hsteady : value.IsSteady)
    (hrest : EndsNumber rest) : readHead (write value ++ rest) = .ok (.scalar value, rest) := by
  cases value with
  | null => rfl
  | bool flag => cases flag <;> rfl
  | int n =>
    have hrange : -9223372036854775808 ≤ n ∧ n ≤ 18446744073709551615 := by
      cases depth <;> exact hfits
    exact readHead_writeInt hrange.1 hrange.2 hrest
  | real x => exact readHead_real_append (hsteady x (List.mem_singleton_self x)) hrest
  | str text => exact readHead_writeText text rest
  | arr items => exact absurd rfl (harr items)
  | obj members => exact absurd rfl (hobj members)

/-- What a value is written as is read as that value, whatever follows that is no part of it. -/
theorem readValue_write {value : Json} (hfits : value.Fits depth) (hsteady : value.IsSteady)
    (hrest : EndsNumber rest) : readValue depth (write value ++ rest) = .ok (value, rest) := by
  induction depth generalizing value rest with
  | zero =>
    refine readValue_of_scalar 0 (readHead_write ?_ ?_ hfits hsteady hrest)
    · rintro items rfl
      exact hfits
    · rintro members rfl
      exact hfits
  | succ depth ih =>
    cases value with
    | arr items =>
      have hitems : ∀ item ∈ items, ∀ rest, EndsNumber rest →
          readValue depth (write item ++ rest) = .ok (item, rest) :=
        fun item hitem rest hrest => ih (hfits item hitem) (hsteady.item hitem) hrest
      have hread := @readArray_write Json (List Json) id (fun items item => item :: items)
        (fun items input => readValue depth input >>= fun read => .ok (read.1 :: items, read.2)) items
        (fun item hitem first rest hrest => nextItem_value first (hitems item hitem rest hrest))
        (fun item hitem state rest hrest => by
          rw [readValue_skipSpace, id, hitems item hitem rest hrest]
          rfl) [] rest
      rw [List.map_id, List.foldl_flip_cons_eq_append', List.append_nil] at hread
      rw [write, List.cons_append, readValue]
      change (readArray _ _ (writeItems true items ++ rest) >>= _) = _
      rw [hread]
      change Except.ok (arr items.reverse.reverse, rest) = _
      rw [List.reverse_reverse]
    | obj members =>
      rw [write, List.cons_append, readValue]
      change (readObject _ _ (writeMembers true members ++ rest) >>= _) = _
      rw [readObject_write (fun members member => member :: members)
        (fun _ others => ∀ member ∈ others, member ∈ members) ?step ?ready (fun _ h => h)]
      case step =>
        intro state member others rest hothers hrest
        have hmember : member ∈ members := hothers member List.mem_cons_self
        change (readValue depth (write member.2 ++ rest) >>= _) = _
        rw [ih (hfits.2 member hmember) (hsteady.member hmember) hrest]
        rfl
      case ready =>
        exact fun state member others hothers other hother =>
          hothers other (List.mem_cons_of_mem _ hother)
      rw [List.foldl_flip_cons_eq_append', List.append_nil]
      change Except.ok (obj members.reverse.reverse, rest) = _
      rw [List.reverse_reverse]
    | _ => exact readValue_of_scalar _ (readHead_write nofun nofun hfits hsteady hrest)

/-! ### Canonical values -/

theorem insertMember_last {key : String} {value : Json}
    (hlast : ∀ member ∈ members, member.1 < key) :
    insertMember key value members = members ++ [(key, value)] := by
  induction members with
  | nil => rfl
  | cons member members ih =>
    obtain ⟨other, held⟩ := member
    have hother : other < key := hlast (other, held) List.mem_cons_self
    have hless : ¬key < other := String.lt_asymm hother
    have hne : ¬key = other := fun heq => String.lt_irrefl _ (heq ▸ hother)
    rw [insertMember, if_neg hless, if_neg hne,
      ih fun each heach => hlast each (List.mem_cons_of_mem _ heach)]
    rfl

theorem sortMembers_of_sorted (hsorted : members.Pairwise fun first second => first.1 < second.1) :
    sortMembers members = members := by
  have hfold : ∀ placed rest : List (String × Json),
      (placed ++ rest).Pairwise (fun first second => first.1 < second.1) →
      rest.foldl (fun sorted member => insertMember member.1 member.2 sorted) placed =
        placed ++ rest := by
    intro placed rest
    induction rest generalizing placed with
    | nil => simp
    | cons member rest ih =>
      obtain ⟨key, value⟩ := member
      intro hsorted
      have hlast : ∀ member ∈ placed, member.1 < key := fun member hmember =>
        (List.pairwise_append.mp hsorted).2.2 member hmember (key, value) List.mem_cons_self
      have hplaced : (placed ++ [(key, value)] ++ rest).Pairwise
          fun first second => first.1 < second.1 := by
        simpa using hsorted
      rw [List.foldl_cons]
      change rest.foldl _ (insertMember key value placed) = _
      rw [insertMember_last hlast, ih _ hplaced, List.append_assoc, List.singleton_append]
  exact hfold [] members hsorted

theorem canonical_of_fits {value : Json} (hfits : value.Fits depth) : value.canonical = value := by
  induction depth generalizing value with
  | zero =>
    cases value with
    | arr items => cases hfits
    | obj members => cases hfits
    | _ => rfl
  | succ depth ih =>
    cases value with
    | arr items =>
      have hitems : ∀ items : List Json, (∀ item ∈ items, item.Fits depth) →
          canonicalItems items = items := by
        intro items hitems
        induction items with
        | nil => rfl
        | cons item items ihItems =>
          rw [canonicalItems, ih (hitems item List.mem_cons_self),
            ihItems fun other hother => hitems other (List.mem_cons_of_mem _ hother)]
      rw [canonical, hitems items hfits]
    | obj members =>
      have hmembers : ∀ members : List (String × Json), (∀ member ∈ members, member.2.Fits depth) →
          canonicalMembers members = members := by
        intro members hmembers
        induction members with
        | nil => rfl
        | cons member members ihMembers =>
          obtain ⟨key, value⟩ := member
          rw [canonicalMembers, ih (hmembers (key, value) List.mem_cons_self),
            ihMembers fun other hother => hmembers other (List.mem_cons_of_mem _ hother)]
      rw [canonical, hmembers members hfits.2, sortMembers_of_sorted hfits.1]
    | _ => rfl

end Json

end KnowledgeSchema
