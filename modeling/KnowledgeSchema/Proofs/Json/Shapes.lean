import Mathlib.Data.List.Nodup
import KnowledgeSchema.Json.Value

/-!
# Shapes of JSON

What JSON a place in a document takes. A record takes an object with each of its parts at most once
and nothing else, or an array of its parts in declared order. What is found at an inner place of a
value that is taken is taken there, and anything else that the place takes may be put there instead.
-/

namespace KnowledgeSchema

mutual

inductive Shape where
  | text
  | flag
  /-- An integer of 64 bits with a sign. -/
  | integer
  | number
  /-- One of some names: the name alone, or an object with the name for its one key and nothing for
  the value. -/
  | name (known : List String)
  /-- Any JSON. -/
  | free
  | optional (content : Shape)
  | list (item : Shape)
  | record (parts : Parts)

/-- The parts of a record in declared order, each under its name. One that is not required may be
left out. -/
inductive Parts where
  | done
  | part (name : String) (isRequired : Bool) (shape : Shape) (rest : Parts)

end

namespace Parts

def names : Parts → List String
  | .done => []
  | .part name _ _ rest => name :: rest.names

def required : Parts → List String
  | .done => []
  | .part name isRequired _ rest => if isRequired then name :: rest.required else rest.required

/-- The shape of the part with a name. -/
def shapeOf? (key : String) : Parts → Option Shape
  | .done => none
  | .part name _ shape rest => if key = name then some shape else rest.shapeOf? key

/-- The shape of the part at a position. -/
def shapeAt? : Parts → Nat → Option Shape
  | .done, _ => none
  | .part _ _ shape _, 0 => some shape
  | .part _ _ _ rest, position + 1 => rest.shapeAt? position

end Parts

mutual

/-- Whether JSON has a shape. -/
def Shape.Takes : Shape → Json → Prop
  | .text, value => ∃ text, value = .str text
  | .flag, value => ∃ flag, value = .bool flag
  | .integer, value => ∃ n, value = .int n ∧ Int64.minValue.toInt ≤ n ∧ n ≤ Int64.maxValue.toInt
  | .number, value => (∃ n, value = .int n) ∨ ∃ x, value = .real x
  | .name known, value => ∃ name ∈ known, value = .str name ∨ value = .obj [(name, .null)]
  | .free, _ => True
  | .optional content, value => value = .null ∨ content.Takes value
  | .list item, value => ∃ items, value = .arr items ∧ ∀ value ∈ items, item.Takes value
  | .record parts, value =>
    (∃ items, value = .arr items ∧ parts.TakesItems items) ∨
      ∃ members, value = .obj members ∧ (members.map (·.1)).Nodup ∧
        (∀ name ∈ parts.required, name ∈ members.map (·.1)) ∧
        ∀ member ∈ members, parts.TakesMember member.1 member.2

/-- Whether a key is the name of a part and a value has the shape of that part. -/
def Parts.TakesMember : Parts → String → Json → Prop
  | .done, _, _ => False
  | .part name _ shape rest, key, value =>
    if key = name then shape.Takes value else rest.TakesMember key value

/-- Whether values have the shapes of the parts one after the other, where parts at the end that are
not required may be left out. -/
def Parts.TakesItems : Parts → List Json → Prop
  | .done, items => items = []
  | .part _ isRequired shape rest, items =>
    match items with
    | [] => isRequired = false ∧ rest.TakesItems []
    | value :: items => shape.Takes value ∧ rest.TakesItems items

end

mutual

/-- The records inside a shape. -/
def Shape.records : Shape → List Parts
  | .optional content => content.records
  | .list item => item.records
  | .record parts => parts :: parts.records
  | _ => []

def Parts.records : Parts → List Parts
  | .done => []
  | .part _ _ shape rest => shape.records ++ rest.records

end

variable {shape outer inner : Shape} {parts : Parts} {name key : String} {value other : Json}
  {items : List Json} {members : List (String × Json)}

/-! ### Parts -/

namespace Parts

theorem mem_names_of_takesMember :
    ∀ {parts : Parts}, parts.TakesMember key value → key ∈ parts.names
  | .done, htakes => nomatch htakes
  | .part name isRequired shape rest, htakes => by
    rw [TakesMember] at htakes
    rw [names, List.mem_cons]
    split_ifs at htakes with heq
    · exact Or.inl heq
    · exact Or.inr (mem_names_of_takesMember htakes)

theorem required_subset_names : ∀ {parts : Parts}, parts.required ⊆ parts.names
  | .done => List.Subset.refl []
  | .part name isRequired _ rest => by
    rw [required, names]
    split_ifs
    · exact List.cons_subset_cons name required_subset_names
    · exact List.subset_cons_of_subset name required_subset_names

theorem takesMember_iff : ∀ {parts : Parts}, parts.shapeOf? key = some shape →
    (parts.TakesMember key value ↔ shape.Takes value)
  | .done, hshape => nomatch hshape
  | .part name isRequired found rest, hshape => by
    rw [shapeOf?] at hshape
    rw [TakesMember]
    split_ifs at hshape ⊢ with heq
    · cases hshape
      exact Iff.rfl
    · exact takesMember_iff hshape

theorem records_of_shapeOf? : ∀ {parts : Parts}, parts.shapeOf? key = some shape →
    shape.records ⊆ parts.records
  | .done, hshape => nomatch hshape
  | .part name isRequired found rest, hshape => by
    rw [shapeOf?] at hshape
    rw [records]
    split_ifs at hshape
    · cases hshape
      exact List.subset_append_left _ _
    · exact List.subset_append_of_subset_right _ (records_of_shapeOf? hshape)

theorem records_of_shapeAt? : ∀ {parts : Parts} {position : Nat},
    parts.shapeAt? position = some shape → shape.records ⊆ parts.records
  | .done, _, hshape => nomatch hshape
  | .part name isRequired found rest, 0, hshape => by
    cases hshape
    rw [records]
    exact List.subset_append_left _ _
  | .part name isRequired found rest, position + 1, hshape => by
    have hshape : rest.shapeAt? position = some shape := hshape
    rw [records]
    exact List.subset_append_of_subset_right _ (records_of_shapeAt? hshape)

theorem takesItems_append : ∀ {parts : Parts} {before : List Json} (after : List Json),
    parts.shapeAt? before.length = some shape →
    parts.TakesItems (before ++ value :: after) → shape.Takes value ∧
      ∀ other, shape.Takes other → parts.TakesItems (before ++ other :: after)
  | .done, _, _, hshape, _ => nomatch hshape
  | .part name isRequired found rest, [], after, hshape, htakes => by
    cases hshape
    exact ⟨htakes.1, fun other hother => ⟨hother, htakes.2⟩⟩
  | .part name isRequired found rest, first :: before, after, hshape, htakes => by
    have hshape : rest.shapeAt? before.length = some shape := hshape
    obtain ⟨hvalue, hothers⟩ := takesItems_append after hshape htakes.2
    exact ⟨hvalue, fun other hother => ⟨htakes.1, hothers other hother⟩⟩

end Parts

/-! ### Records -/

namespace Shape

theorem takes_obj : (record parts).Takes (.obj members) ↔
    (members.map (·.1)).Nodup ∧ (∀ name ∈ parts.required, name ∈ members.map (·.1)) ∧
      ∀ member ∈ members, parts.TakesMember member.1 member.2 := by
  rw [Takes]
  constructor
  · rintro (⟨_, ⟨⟩, _⟩ | ⟨_, ⟨⟩, htakes⟩)
    exact htakes
  · exact fun htakes => Or.inr ⟨members, rfl, htakes⟩

theorem takes_arr : (record parts).Takes (.arr items) ↔ parts.TakesItems items := by
  rw [Takes]
  constructor
  · rintro (⟨_, ⟨⟩, htakes⟩ | ⟨_, ⟨⟩, _⟩)
    exact htakes
  · exact fun htakes => Or.inl ⟨items, rfl, htakes⟩

theorem takes_list {item : Shape} :
    (list item).Takes (.arr items) ↔ ∀ value ∈ items, item.Takes value := by
  rw [Takes]
  constructor
  · rintro ⟨_, ⟨⟩, htakes⟩
    exact htakes
  · exact fun htakes => ⟨items, rfl, htakes⟩

/-- An object in the place of a record has names of parts only, none of them twice, and those of all
parts that are required. -/
theorem names_of_takes (htakes : (record parts).Takes (.obj members)) :
    (∀ member ∈ members, member.1 ∈ parts.names) ∧ (members.map (·.1)).Nodup ∧
      ∀ name ∈ parts.required, name ∈ members.map (·.1) := by
  obtain ⟨hnodup, hrequired, hmembers⟩ := takes_obj.mp htakes
  exact ⟨fun member hmember => Parts.mem_names_of_takesMember (hmembers member hmember), hnodup,
    hrequired⟩

/-- A record takes no object with one more member, unless its key is the name of a part that is not
there yet. -/
theorem not_takes_insert {before after : List (String × Json)}
    (hkey : key ∉ parts.names ∨ key ∈ (before ++ after).map (·.1)) :
    ¬(record parts).Takes (.obj (before ++ (key, value) :: after)) := by
  intro htakes
  obtain ⟨hnames, hnodup, -⟩ := names_of_takes htakes
  rcases hkey with hkey | hkey
  · exact hkey (hnames (key, value) (List.mem_append_right _ List.mem_cons_self))
  · rw [List.map_append, List.map_cons, List.nodup_middle, ← List.map_append] at hnodup
    exact (List.nodup_cons.mp hnodup).1 hkey

/-! ### Places -/

/-- The places inside a shape: the shape of a place, and the value around what is put there. -/
inductive Place : Shape → Shape → (Json → Json) → Prop where
  | here (shape : Shape) : Place shape shape id
  | optional {content inner : Shape} {context : Json → Json}
    (hcontent : Place content inner context) : Place (.optional content) inner context
  | item {item inner : Shape} {context : Json → Json} (before after : List Json)
    (hitem : Place item inner context) :
    Place (.list item) inner fun value => .arr (before ++ context value :: after)
  | member {parts : Parts} {name : String} {part inner : Shape} {context : Json → Json}
    (before after : List (String × Json)) (hpart : parts.shapeOf? name = some part)
    (hmember : Place part inner context) :
    Place (.record parts) inner fun value => .obj (before ++ (name, context value) :: after)
  | element {parts : Parts} {part inner : Shape} {context : Json → Json} (before after : List Json)
    (hpart : parts.shapeAt? before.length = some part) (helement : Place part inner context) :
    Place (.record parts) inner fun value => .arr (before ++ context value :: after)

namespace Place

variable {context : Json → Json}

theorem forall_mem_middle {α : Type} {holds : α → Prop} {before after : List α} {middle : α} :
    (∀ found ∈ before ++ middle :: after, holds found) ↔
      (∀ found ∈ before, holds found) ∧ holds middle ∧ ∀ found ∈ after, holds found := by
  rw [List.forall_mem_append, List.forall_mem_cons]

theorem records_subset (hplace : Place outer inner context) : inner.records ⊆ outer.records := by
  induction hplace with
  | here => exact List.Subset.refl _
  | optional hcontent ih =>
    rw [Shape.records]
    exact ih
  | item before after hitem ih =>
    rw [Shape.records]
    exact ih
  | member before after hpart hmember ih =>
    rw [Shape.records]
    exact List.subset_cons_of_subset _ (List.Subset.trans ih (Parts.records_of_shapeOf? hpart))
  | element before after hpart helement ih =>
    rw [Shape.records]
    exact List.subset_cons_of_subset _ (List.Subset.trans ih (Parts.records_of_shapeAt? hpart))

/-- A place of a record is for one of the records inside the shape. -/
theorem mem_records (hplace : Place outer (.record parts) context) : parts ∈ outer.records := by
  have hsubset := hplace.records_subset
  rw [Shape.records] at hsubset
  exact hsubset List.mem_cons_self

/-- Where null stands at a place and around it, it stands for all of the value. -/
theorem takes_of_null (hplace : Place outer inner context) (hnull : context value = .null) :
    value = .null ∧ ∀ other, inner.Takes other → outer.Takes (context other) := by
  induction hplace with
  | here => exact ⟨hnull, fun _ hother => hother⟩
  | optional hcontent ih =>
    obtain ⟨hvalue, hothers⟩ := ih hnull
    exact ⟨hvalue, fun other hother => Or.inr (hothers other hother)⟩
  | item => cases hnull
  | member => cases hnull
  | element => cases hnull

/-- What is found at a place is taken there, and so is anything that has its shape. -/
theorem takes (hplace : Place outer inner context) (htakes : outer.Takes (context value)) :
    (value ≠ .null → inner.Takes value) ∧
      ∀ other, inner.Takes other → outer.Takes (context other) := by
  induction hplace with
  | here => exact ⟨fun _ => htakes, fun _ hother => hother⟩
  | optional hcontent ih =>
    rcases htakes with hnull | htakes
    · obtain ⟨hvalue, hothers⟩ := hcontent.takes_of_null hnull
      exact ⟨fun hne => absurd hvalue hne, fun other hother => Or.inr (hothers other hother)⟩
    · obtain ⟨hvalue, hothers⟩ := ih htakes
      exact ⟨hvalue, fun other hother => Or.inr (hothers other hother)⟩
  | item before after hitem ih =>
    obtain ⟨hbefore, hitemTakes, hafter⟩ := forall_mem_middle.mp (takes_list.mp htakes)
    obtain ⟨hvalue, hothers⟩ := ih hitemTakes
    exact ⟨hvalue, fun other hother =>
      takes_list.mpr (forall_mem_middle.mpr ⟨hbefore, hothers other hother, hafter⟩)⟩
  | member before after hpart hmember ih =>
    obtain ⟨hnodup, hrequired, hall⟩ := takes_obj.mp htakes
    obtain ⟨hbefore, hmemberTakes, hafter⟩ := forall_mem_middle.mp hall
    obtain ⟨hvalue, hothers⟩ := ih ((Parts.takesMember_iff hpart).mp hmemberTakes)
    refine ⟨hvalue, fun other hother => takes_obj.mpr ⟨?_, ?_, ?_⟩⟩
    · simpa using hnodup
    · simpa using hrequired
    · exact forall_mem_middle.mpr
        ⟨hbefore, (Parts.takesMember_iff hpart).mpr (hothers other hother), hafter⟩
  | element before after hpart helement ih =>
    obtain ⟨hpartTakes, hothers⟩ := Parts.takesItems_append after hpart (takes_arr.mp htakes)
    obtain ⟨hvalue, hinner⟩ := ih hpartTakes
    exact ⟨hvalue, fun other hother => takes_arr.mpr (hothers _ (hinner other hother))⟩

end Place

end Shape

end KnowledgeSchema
