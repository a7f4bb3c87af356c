import KnowledgeSchema.Proofs.Compiling.Reading
import KnowledgeSchema.Proofs.Store.Overwriting

/-!
# Listings

What a store lists for an owner, said once for all tables. It is read off the rows under the owner, in
an order that goes by a number where rows have one, then by a text, and then by id. So no two rows
tie, and leaving rows out leaves the others where they stand.
-/

namespace KnowledgeSchema

namespace TableRow

/-- The number that a row is listed by. Rows that have none are listed by their texts alone. -/
def number : TableRow → Int64
  | field row => row.order
  | labelMapping row => row.priority
  | _ => 0

/-- The text that a row is listed by. -/
def text : TableRow → String
  | entityType row => row.kind
  | field row => row.name
  | relationshipType row => row.name
  | relationshipAttribute row => row.name
  | viewTemplate row => row.name
  | mapOfContent row => row.name
  | profile row => row.name
  | labelMapping row => row.label
  | ignoreEntry row => row.term

/-- The order in which the rows of a table are listed. -/
def order : TableRow → TableRow → Ordering :=
  compareLex (compareOn number) (Store.byKey text (·.key.1))

/-- The definition that a row is read as. -/
def toDefinition : TableRow → Except Failure Definition
  | entityType row => .ok (.entityType row.toDefinition)
  | field row => .field <$> row.toDefinition
  | relationshipType row => .ok (.relationshipType row.toDefinition)
  | relationshipAttribute row => .ok (.relationshipAttribute row.toDefinition)
  | viewTemplate row => .viewTemplate <$> row.toDefinition
  | mapOfContent row => .mapOfContent <$> row.toDefinition
  | profile row => .ok (.profile row.toDefinition)
  | labelMapping row => .ok (.labelMapping row.toDefinition)
  | ignoreEntry row => .ok (.ignoreEntry row.toDefinition)

variable {first second row : TableRow} {definition : Definition}

instance : Std.TransCmp order :=
  inferInstanceAs (Std.TransCmp (compareLex (compareOn number) (Store.byKey text (·.key.1))))

end TableRow

namespace Store

/-- The definitions in the answer to a call that lists some. -/
def Call.shown : (call : Call) → call.Result → List Definition
  | .listEntityTypes _, types => types.map .entityType
  | .listFields _, fields => fields.map .field
  | .listRelationshipTypes _, types => types.map .relationshipType
  | .listAttributes _, attributes => attributes.map .relationshipAttribute
  | .listViewTemplates _, views => views.map .viewTemplate
  | .listMapsOfContent _, maps => maps.map .mapOfContent
  | .getProfile _, profile? => profile?.toList.map .profile
  | .listLabelMappings _, mappings => mappings.map .labelMapping
  | .listIgnoreEntries _, entries => entries.map .ignoreEntry
  | _, _ => []

variable {store : Store} {table : Table} {owner : String}

/-! ### Queries -/

end Store

end KnowledgeSchema
