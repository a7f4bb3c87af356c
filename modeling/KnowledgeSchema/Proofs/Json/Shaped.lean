import KnowledgeSchema.Proofs.Json.Nesting
import KnowledgeSchema.Proofs.Json.Shapes
import KnowledgeSchema.Proofs.Json.Sources
import KnowledgeSchema.Proofs.Json.Walks

/-!
# What codecs take

A codec has a shape when it reads a value from just those texts from which JSON of that shape is
read, and leaves the same rest. A closed record has a shape when its fields have.
-/

namespace KnowledgeSchema

open Json

variable {α β : Type} {shape : Shape} {depth : Nat} {input left : List Char} {tree : Json}

structure Codec.HasShape (codec : Codec α) (shape : Shape) : Prop where
  /-- What is read has the shape. -/
  sound : ∀ {depth input value left}, codec.read depth input = .ok (value, left) →
    ∃ tree, readValue depth input = .ok (tree, left) ∧ shape.Takes tree
  /-- What has the shape is read. -/
  complete : ∀ {depth input tree left}, readValue depth input = .ok (tree, left) →
    shape.Takes tree → ∃ value, codec.read depth input = .ok (value, left)

namespace Codec

variable {codec : Codec α}

/-! ### Scalars -/

/-- A type of scalars takes no array and no object, and of the scalars those that have a value. -/
theorem hasShape_scalar {encode : α → Json} {ofJson : Json → Except Reason α}
    (hvalues : ∀ value, (∃ found, ofJson value = .ok found) ↔ shape.Takes value)
    (harr : ∀ items, ¬shape.Takes (.arr items)) (hobj : ∀ members, ¬shape.Takes (.obj members)) :
    (scalar encode ofJson).HasShape shape where
  sound {depth input value left} hread := by
    obtain ⟨⟨head, rest⟩, hhead, hread⟩ := Outcome.bind_eq_ok.mp hread
    obtain ⟨found, hfound, hvalue⟩ := Outcome.bind_eq_ok.mp hread
    cases hvalue
    have htakes := (hvalues head.value).mp ⟨_, eq_ok_of_inText hfound⟩
    cases head with
    | scalar tree => exact ⟨tree, readValue_of_scalar depth hhead, htakes⟩
    | array => exact absurd htakes (harr [])
    | object => exact absurd htakes (hobj [])
  complete {depth input tree left} hread htakes := by
    rcases readValue_eq_ok hread with hhead | ⟨_, -, ⟨_, _, -, -, rfl⟩ | ⟨_, _, -, -, rfl⟩⟩
    · obtain ⟨value, hvalue⟩ := (hvalues tree).mpr htakes
      refine ⟨value, Outcome.bind_eq_ok.mpr ⟨_, hhead, ?_⟩⟩
      dsimp only [Head.value]
      rw [hvalue]
      rfl
    · exact absurd htakes (harr _)
    · exact absurd htakes (hobj _)

theorem hasShape_text : text.HasShape .text :=
  hasShape_scalar (fun value => by cases value <;> simp [Shape.Takes]) (by simp [Shape.Takes])
    (by simp [Shape.Takes])

theorem hasShape_flag : flag.HasShape .flag :=
  hasShape_scalar (fun value => by cases value <;> simp [Shape.Takes]) (by simp [Shape.Takes])
    (by simp [Shape.Takes])

theorem hasShape_signed : signed.HasShape .integer := by
  refine hasShape_scalar (fun value => ?_) (by simp [Shape.Takes]) (by simp [Shape.Takes])
  cases value with
  | int n =>
    simp only [Shape.Takes, Json.int.injEq, exists_eq_left', Bool.and_eq_true, decide_eq_true_eq]
    split_ifs with hn
    · exact iff_of_true ⟨_, rfl⟩ hn
    · exact iff_of_false (by rintro ⟨_, ⟨⟩⟩) hn
  | _ => simp [Shape.Takes]

theorem hasShape_double : double.HasShape .number :=
  hasShape_scalar (fun value => by cases value <;> simp [Shape.Takes]) (by simp [Shape.Takes])
    (by simp [Shape.Takes])

/-! ### Values around others -/

theorem hasShape_free : free.HasShape .free where
  sound hread := by
    obtain ⟨⟨tree, rest⟩, htree, hvalue⟩ := Outcome.bind_eq_ok.mp hread
    cases hvalue
    exact ⟨tree, htree, trivial⟩
  complete hread _ := ⟨_, Outcome.bind_eq_ok.mpr ⟨_, hread, rfl⟩⟩

theorem HasShape.map (hcodec : codec.HasShape shape) (of : α → β) (back : β → α) :
    (codec.map of back).HasShape shape where
  sound hread := by
    obtain ⟨⟨value, rest⟩, hvalue, hof⟩ := Outcome.bind_eq_ok.mp hread
    cases hof
    exact hcodec.sound hvalue
  complete hread htakes := by
    obtain ⟨value, hvalue⟩ := hcodec.complete hread htakes
    exact ⟨of value, Outcome.bind_eq_ok.mpr ⟨_, hvalue, rfl⟩⟩

theorem readHead_null {after : List Char} (hskip : skipSpace input = 'n' :: after) :
    readHead input = (do .ok (.scalar .null, ← expectWord "ull".toList after)) := by
  rw [readHead, hskip]
  rfl

theorem HasShape.optional (hcodec : codec.HasShape shape) :
    codec.optional.HasShape (.optional shape) where
  sound {depth input value left} hread := by
    simp only [Codec.optional] at hread
    split at hread
    next after hskip =>
      obtain ⟨rest, hword, hvalue⟩ := Outcome.bind_eq_ok.mp hread
      cases hvalue
      refine ⟨.null, readValue_of_scalar depth ?_, Or.inl rfl⟩
      rw [readHead_null hskip, hword]
      rfl
    next hother =>
      obtain ⟨⟨found, rest⟩, hfound, hvalue⟩ := Outcome.bind_eq_ok.mp hread
      cases hvalue
      obtain ⟨tree, htree, htakes⟩ := hcodec.sound hfound
      rw [readValue_skipSpace] at htree
      exact ⟨tree, htree, Or.inr htakes⟩
  complete {depth input tree left} hread htakes := by
    simp only [Codec.optional]
    split
    next after hskip =>
      have hhead := readHead_null hskip
      rcases readValue_eq_ok hread with hnull | ⟨_, -, ⟨_, _, hopen, -⟩ | ⟨_, _, hopen, -⟩⟩
      · rw [hhead] at hnull
        obtain ⟨rest, hword, hrest⟩ := Outcome.bind_eq_ok.mp hnull
        cases hrest
        exact ⟨none, Outcome.bind_eq_ok.mpr ⟨_, hword, rfl⟩⟩
      · rw [hhead] at hopen
        obtain ⟨rest, -, hrest⟩ := Outcome.bind_eq_ok.mp hopen
        cases hrest
      · rw [hhead] at hopen
        obtain ⟨rest, -, hrest⟩ := Outcome.bind_eq_ok.mp hopen
        cases hrest
    next hother =>
      rcases htakes with rfl | htakes
      · rcases readValue_eq_ok hread with hhead | ⟨_, -, ⟨_, _, -, -, ⟨⟩⟩ | ⟨_, _, -, -, ⟨⟩⟩⟩
        obtain ⟨after, hskip⟩ := exists_skipSpace_of_null hhead
        exact absurd hskip (hother after)
      · rw [← readValue_skipSpace] at hread
        obtain ⟨value, hvalue⟩ := hcodec.complete hread htakes
        exact ⟨some value, Outcome.bind_eq_ok.mpr ⟨_, hvalue, rfl⟩⟩

/-! ### Lists -/

section

variable {fuel : Nat} {first : Bool} {trees all : List Json} {values found : List α}

/-- A value in front of those read so far. -/
def readItemOf (codec : Codec α) (depth : Nat) (values : List α) : Reader (List α) :=
  fun input => do
  let (value, rest) ← codec.read depth input
  .ok (value :: values, rest)

theorem readItemOf_eq_ok : codec.readItemOf depth values input = .ok (found, left) ↔
    ∃ value, codec.read depth input = .ok (value, left) ∧ value :: values = found := by
  rw [readItemOf, Outcome.bind_eq_ok]
  constructor
  · rintro ⟨⟨value, rest⟩, hvalue, hfound⟩
    cases hfound
    exact ⟨value, hvalue, rfl⟩
  · rintro ⟨value, hvalue, rfl⟩
    exact ⟨(value, left), hvalue, rfl⟩

theorem foldItems_sound (hcodec : codec.HasShape shape)
    (hfold : foldItems (codec.readItemOf depth) fuel first values input = .ok (found, left))
    (htrees : ∀ tree ∈ trees, shape.Takes tree) :
    ∃ all, foldItems (readItem depth) fuel first trees input = .ok (all, left) ∧
      ∀ tree ∈ all, shape.Takes tree := by
  induction fuel generalizing first values trees input with
  | zero => cases hfold
  | succ fuel ih =>
    rcases foldItems_succ.mp hfold with
      ⟨hnext, -, rfl⟩ | ⟨rest, between, next, hnext, hstep, hfold⟩
    · exact ⟨trees, foldItems_succ.mpr (Or.inl ⟨hnext, rfl, rfl⟩), htrees⟩
    · obtain ⟨value, hvalue, rfl⟩ := readItemOf_eq_ok.mp hstep
      obtain ⟨tree, htree, htakes⟩ := hcodec.sound hvalue
      obtain ⟨all, hall, hshape⟩ := ih hfold (List.forall_mem_cons.mpr ⟨htakes, htrees⟩)
      have hstep : readItem depth trees rest = .ok (tree :: trees, next) :=
        readItem_eq_ok.mpr ⟨tree, htree, rfl⟩
      exact ⟨all, foldItems_succ.mpr (Or.inr ⟨rest, _, next, hnext, hstep, hall⟩), hshape⟩

theorem foldItems_complete (hcodec : codec.HasShape shape)
    (hfold : foldItems (readItem depth) fuel first trees input = .ok (all, left))
    (hall : ∀ tree ∈ all, shape.Takes tree) (values : List α) :
    ∃ found, foldItems (codec.readItemOf depth) fuel first values input = .ok (found, left) := by
  induction fuel generalizing first values trees input with
  | zero => cases hfold
  | succ fuel ih =>
    rcases foldItems_succ.mp hfold with
      ⟨hnext, -, rfl⟩ | ⟨rest, between, next, hnext, hstep, hfold⟩
    · exact ⟨values, foldItems_succ.mpr (Or.inl ⟨hnext, rfl, rfl⟩)⟩
    · obtain ⟨tree, htree, rfl⟩ := readItem_eq_ok.mp hstep
      have htakes := hall tree ((items_suffix_of_foldItems hfold).subset List.mem_cons_self)
      obtain ⟨value, hvalue⟩ := hcodec.complete htree htakes
      obtain ⟨found, hfound⟩ := ih hfold (value :: values)
      have hstep : codec.readItemOf depth values rest = .ok (value :: values, next) :=
        readItemOf_eq_ok.mpr ⟨value, hvalue, rfl⟩
      exact ⟨found, foldItems_succ.mpr (Or.inr ⟨rest, _, next, hnext, hstep, hfound⟩)⟩

end

theorem HasShape.list (hcodec : codec.HasShape shape) : (list codec).HasShape (.list shape) where
  sound {depth input value left} hread := by
    obtain ⟨⟨head, after⟩, hhead, hread⟩ := Outcome.bind_eq_ok.mp hread
    cases head with
    | scalar value => cases hread
    | object => cases hread
    | array =>
      obtain ⟨below, hbelow, hread⟩ := Outcome.bind_eq_ok.mp hread
      obtain ⟨⟨found, rest⟩, harray, hitems⟩ := Outcome.bind_eq_ok.mp hread
      cases hitems
      cases descend_eq_ok hbelow
      obtain ⟨rest', hfold, hclose⟩ := readArray_eq_ok.mp harray
      obtain ⟨all, hall, hshape⟩ := foldItems_sound hcodec hfold (List.forall_mem_nil _)
      have harray := readArray_eq_ok.mpr ⟨rest', hall, hclose⟩
      refine ⟨.arr all.reverse, readValue_array hhead harray, ?_⟩
      exact Shape.takes_list.mpr fun tree htree => hshape tree (List.mem_reverse.mp htree)
  complete {depth input tree left} hread htakes := by
    obtain ⟨items, rfl, hitems⟩ := htakes
    rcases readValue_eq_ok hread with
      hhead | ⟨below, rfl, ⟨rest, all, hhead, harray, heq⟩ | ⟨_, _, -, -, ⟨⟩⟩⟩
    · exact absurd (isScalar_of_readHead hhead) id
    · cases heq
      obtain ⟨rest', hfold, hclose⟩ := readArray_eq_ok.mp harray
      obtain ⟨values, hvalues⟩ := foldItems_complete hcodec hfold
        (fun tree htree => hitems tree (List.mem_reverse.mpr htree)) []
      have hvalues := readArray_eq_ok.mpr ⟨rest', hvalues, hclose⟩
      exact ⟨values.reverse, Outcome.bind_eq_ok.mpr ⟨_, hhead, Outcome.bind_eq_ok.mpr
        ⟨below, rfl, Outcome.bind_eq_ok.mpr ⟨(values, left), hvalues, rfl⟩⟩⟩⟩

/-! ### Names -/

theorem pick_eq_ok {known : List (String × α)} {name : String} :
    (∃ value, pick known name = .ok value) ↔ name ∈ known.map Prod.fst := by
  unfold pick
  constructor
  · rintro ⟨value, hvalue⟩
    split at hvalue
    next hlookup =>
      obtain ⟨before, after, rfl, -⟩ := List.lookup_eq_some_iff.mp hlookup
      simp
    next => cases hvalue
  · intro hname
    cases hlookup : known.lookup name with
    | some value => exact ⟨value, rfl⟩
    | none =>
      obtain ⟨entry, hentry, rfl⟩ := List.mem_map.mp hname
      exact absurd (List.lookup_eq_none_iff.mp hlookup entry hentry) (by simp)

theorem readVariantKey_eq_ok {known : List (String × α)} {value : α} :
    readVariantKey known input = .ok (value, left) ↔
      ∃ rest name after, skipSpace input = '"' :: rest ∧ readText rest = .ok (name, after) ∧
        pick known name = .ok value ∧ readColon after = .ok left := by
  unfold readVariantKey
  constructor
  · intro hread
    split at hread
    · cases hread
    next rest hskip =>
      obtain ⟨⟨name, after⟩, hname, hread⟩ := Outcome.bind_eq_ok.mp hread
      obtain ⟨found, hpick, hread⟩ := Outcome.bind_eq_ok.mp hread
      obtain ⟨colon, hcolon, hfound⟩ := Outcome.bind_eq_ok.mp hread
      cases hfound
      exact ⟨rest, name, after, hskip, hname, eq_ok_of_inText hpick, hcolon⟩
    · cases hread
  · rintro ⟨rest, name, after, hskip, hname, hpick, hcolon⟩
    rw [hskip]
    refine Outcome.bind_eq_ok.mpr ⟨(name, after), hname, ?_⟩
    dsimp only
    rw [hpick, hcolon]
    rfl

theorem closeVariant_eq_ok : closeVariant input = .ok left ↔ skipSpace input = '\x7d' :: left := by
  unfold closeVariant
  constructor
  · intro hclose
    split at hclose
    · cases hclose
    next hskip =>
      cases hclose
      exact hskip
    · cases hclose
  · intro hskip
    rw [hskip]
    rfl

theorem readHead_eq_null {after : List Char} (hread : readValue depth input = .ok (.null, after)) :
    readHead input = .ok (.scalar .null, after) := by
  rcases readValue_eq_ok hread with hhead | ⟨_, -, ⟨_, _, -, -, ⟨⟩⟩ | ⟨_, _, -, -, ⟨⟩⟩⟩
  exact hhead

/-- A name is spelled as an object when it is the one key and there is nothing for its value. -/
theorem readVariant_iff {known : List (String × α)} :
    (∃ value after final, readVariantKey known input = .ok (value, after) ∧
        readHead after = .ok (.scalar .null, final) ∧ closeVariant final = .ok left) ↔
      ∃ name ∈ known.map Prod.fst,
        readObject (readMember depth) [] input = .ok ([(name, .null)], left) := by
  constructor
  · rintro ⟨value, after, final, hvariant, hnull, hclose⟩
    obtain ⟨text, name, colon, hquote, hname, hpick, hcolon⟩ := readVariantKey_eq_ok.mp hvariant
    exact ⟨name, pick_eq_ok.mp ⟨value, hpick⟩, readObject_single (nextKey_first hquote hname) hcolon
      (readValue_of_scalar depth hnull) (closeVariant_eq_ok.mp hclose)⟩
  · rintro ⟨name, hname, hobject⟩
    obtain ⟨after, colon, final, hkey, hcolon, hnull, hclose⟩ := readObject_eq_single hobject
    obtain ⟨text, hquote, htext⟩ := nextKey_eq_some hkey
    obtain ⟨value, hvalue⟩ := pick_eq_ok.mpr hname
    have hvariant := readVariantKey_eq_ok.mpr ⟨text, name, after, hquote, htext, hvalue, hcolon⟩
    exact ⟨value, colon, final, hvariant, readHead_eq_null hnull, closeVariant_eq_ok.mpr hclose⟩

theorem hasShape_named (known : List (String × α)) (name : α → String) :
    (named known name).HasShape (.name (known.map Prod.fst)) where
  sound {depth input value left} hread := by
    simp only [named] at hread
    split at hread
    · cases hread
    next rest hskip =>
      obtain ⟨⟨name, after⟩, hname, hread⟩ := Outcome.bind_eq_ok.mp hread
      obtain ⟨found, hpick, hfound⟩ := Outcome.bind_eq_ok.mp hread
      cases hfound
      have hknown := pick_eq_ok.mp ⟨_, eq_ok_of_inText hpick⟩
      have htree := readValue_of_scalar depth (readHead_quote hskip hname)
      exact ⟨.str name, htree, name, hknown, Or.inl rfl⟩
    next rest hskip =>
      obtain ⟨below, hbelow, hread⟩ := Outcome.bind_eq_ok.mp hread
      obtain ⟨⟨found, after⟩, hvariant, hread⟩ := Outcome.bind_eq_ok.mp hread
      obtain ⟨⟨head, final⟩, hhead, hread⟩ := Outcome.bind_eq_ok.mp hread
      split at hread
      next hnull =>
        cases hnull
        obtain ⟨closed, hclose, hfound⟩ := Outcome.bind_eq_ok.mp hread
        cases hfound
        obtain ⟨name, hname, hobject⟩ := readVariant_iff.mp ⟨found, after, _, hvariant, hhead, hclose⟩
        rw [descend_eq_ok hbelow]
        exact ⟨_, readValue_object (readHead_brace hskip) hobject, name, hname, Or.inr rfl⟩
      next => cases hread
    · cases hread
  complete {depth input tree left} hread htakes := by
    obtain ⟨name, hname, rfl | rfl⟩ := htakes
    · rcases readValue_eq_ok hread with hhead | ⟨_, -, ⟨_, _, -, -, ⟨⟩⟩ | ⟨_, _, -, -, ⟨⟩⟩⟩
      obtain ⟨rest, hskip, htext⟩ := exists_quote_of_readHead hhead
      obtain ⟨value, hvalue⟩ := pick_eq_ok.mpr hname
      refine ⟨value, ?_⟩
      simp only [named, hskip]
      refine Outcome.bind_eq_ok.mpr ⟨_, htext, ?_⟩
      rw [hvalue]
      rfl
    · rcases readValue_eq_ok hread with
        hhead | ⟨below, rfl, ⟨_, _, -, -, ⟨⟩⟩ | ⟨rest, members, hhead, hobject, heq⟩⟩
      · exact absurd (isScalar_of_readHead hhead) id
      · have hsingle : members = [(name, .null)] := by
          rw [← List.reverse_reverse members, ← Json.obj.inj heq]
          rfl
        rw [hsingle] at hobject
        obtain ⟨value, after, final, hvariant, hnull, hclose⟩ :=
          readVariant_iff.mpr ⟨name, hname, hobject⟩
        refine ⟨value, ?_⟩
        simp only [named, skipSpace_of_readHead hhead]
        refine Outcome.bind_eq_ok.mpr ⟨below, rfl, Outcome.bind_eq_ok.mpr ⟨_, hvariant, ?_⟩⟩
        exact Outcome.bind_eq_ok.mpr ⟨_, hnull, Outcome.bind_eq_ok.mpr ⟨left, hclose, rfl⟩⟩

/-! ### Whole texts -/

end Codec

/-- A text is nothing but this value, with blanks around it. -/
def Json.IsReadFrom (tree : Json) (text : String) : Prop :=
  ∃ rest, readValue maxDepth text.toList = .ok (tree, rest) ∧ skipSpace rest = []

theorem Json.IsReadFrom.unique {text : String} {other : Json} (htree : tree.IsReadFrom text)
    (hother : other.IsReadFrom text) : tree = other := by
  obtain ⟨rest, hread, -⟩ := htree
  obtain ⟨rest', hread', -⟩ := hother
  rw [hread] at hread'
  cases hread'
  rfl

/-- A text is parsed when what it reads as has the shape. -/
theorem Codec.HasShape.parse_iff {codec : Codec α} (hcodec : codec.HasShape shape) {text : String} :
    (∃ value, codec.parse text = .ok value) ↔
      ∃ tree : Json, tree.IsReadFrom text ∧ shape.Takes tree := by
  simp only [parse, Outcome.bind_eq_ok]
  constructor
  · rintro ⟨value, ⟨found, rest⟩, hread, hend⟩
    obtain ⟨tree, htree, htakes⟩ := hcodec.sound hread
    split at hend
    next hskip => exact ⟨tree, ⟨rest, htree, hskip⟩, htakes⟩
    next => cases hend
  · rintro ⟨tree, ⟨rest, htree, hskip⟩, htakes⟩
    obtain ⟨value, hvalue⟩ := hcodec.complete htree htakes
    refine ⟨value, (value, rest), hvalue, ?_⟩
    dsimp only
    rw [hskip]

end KnowledgeSchema
