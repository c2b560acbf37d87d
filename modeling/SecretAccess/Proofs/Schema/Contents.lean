import SecretAccess.Proofs.Schema.Engine
import SecretAccess.Proofs.Store.Edges

namespace SecretAccess

open Schema

def traitRecord : (kind : EntityKind) → Traits kind → Record
  | .client, traits => [("enabled", traits.enabled)]
  | .group, traits => [("metadata", traits.metadata)]
  | .secret, traits => [("type", traits.contentType), ("metadata", traits.metadata)]

variable (shown : Timestamp → Document)

/-- The row of an entity. A database shows times in a form of its own. -/
def Entity.record {kind : EntityKind} (row : Entity kind) : Record :=
  [("id", row.id), ("name", row.name), ("description", row.description)] ++ traitRecord kind row.traits ++
    [("created_at", some (shown row.createdAt)), ("created_by", row.createdBy),
      ("updated_at", some (shown row.updatedAt)), ("updated_by", row.updatedBy)]

def Edge.record (edge : EdgeKind) (row : Edge) : Record :=
  [(edge.endpointColumn, row.endpoint), ("group_id", row.group), ("created_at", some (shown row.createdAt))]

namespace Store

def entityRelation (s : Store) (kind : EntityKind) : Relation :=
  ⟨entityTable kind, (s.entities kind).values.map (·.record shown)⟩

def edgeRelation (s : Store) (edge : EdgeKind) : Relation :=
  ⟨edgeTable edge, (s.edges edge).values.map (·.record shown edge)⟩

def database (s : Store) : Database :=
  [.client, .group, .secret].map (s.entityRelation shown) ++ [.grant, .membership].map (s.edgeRelation shown)

end Store

theorem Entity.value_id {kind : EntityKind} (row : Entity kind) : (row.record shown).value "id" = row.id := rfl

theorem Entity.value_name {kind : EntityKind} (row : Entity kind) : (row.record shown).value "name" = row.name := rfl

theorem Edge.value_endpoint (edge : EdgeKind) (row : Edge) :
    (row.record shown edge).value edge.endpointColumn = row.endpoint := by
  cases edge <;> rfl

theorem Edge.value_group (edge : EdgeKind) (row : Edge) : (row.record shown edge).value "group_id" = row.group := by
  cases edge <;> rfl

variable {shown} {s : Store}

namespace Store

theorem name_entityRelation (kind : EntityKind) :
    (s.entityRelation shown kind).definition.name = kind.tableName := rfl

theorem name_edgeRelation (edge : EdgeKind) : (s.edgeRelation shown edge).definition.name = edge.tableName := rfl

theorem records_entityRelation (kind : EntityKind) :
    (s.entityRelation shown kind).records = (s.entities kind).values.map (·.record shown) := rfl

theorem records_edgeRelation (edge : EdgeKind) :
    (s.edgeRelation shown edge).records = (s.edges edge).values.map (·.record shown edge) := rfl

theorem mem_database {relation : Relation} :
    relation ∈ s.database shown ↔
      (∃ kind, relation = s.entityRelation shown kind) ∨ ∃ edge, relation = s.edgeRelation shown edge := by
  constructor
  · intro h
    simp only [database, List.map_cons, List.map_nil, List.cons_append, List.nil_append, List.mem_cons,
      List.not_mem_nil, or_false] at h
    rcases h with rfl | rfl | rfl | rfl | rfl
    exacts [.inl ⟨_, rfl⟩, .inl ⟨_, rfl⟩, .inl ⟨_, rfl⟩, .inr ⟨_, rfl⟩, .inr ⟨_, rfl⟩]
  · rintro (⟨kind, rfl⟩ | ⟨edge, rfl⟩)
    · cases kind <;> simp [database]
    · cases edge <;> simp [database]

theorem update_eq_database {u : Store} {rows : Relation → List Record}
    (hentities : ∀ kind, rows (s.entityRelation shown kind) = (u.entityRelation shown kind).records)
    (hedges : ∀ edge, rows (s.edgeRelation shown edge) = (u.edgeRelation shown edge).records) :
    (s.database shown).update rows = u.database shown := by
  simp only [Database.update, database, List.map_append, List.map_map]
  congr 1
  · apply List.map_congr_left
    intro kind _
    exact congrArg (Relation.mk _) (hentities kind)
  · apply List.map_congr_left
    intro edge _
    exact congrArg (Relation.mk _) (hedges edge)

theorem find?_entities (kind : EntityKind) :
    (s.database shown).find? (·.definition.name = kind.tableName) = some (s.entityRelation shown kind) := by
  cases kind <;> rfl

theorem find?_edges (edge : EdgeKind) :
    (s.database shown).find? (·.definition.name = edge.tableName) = some (s.edgeRelation shown edge) := by
  cases edge <;> rfl

theorem records_entities (kind : EntityKind) :
    (s.database shown).records kind.tableName = (s.entityRelation shown kind).records := by
  cases kind <;> simp [Database.records, database, entityRelation, edgeRelation, entityTable, edgeTable,
    EntityKind.tableName, EdgeKind.tableName]

theorem records_edges (edge : EdgeKind) :
    (s.database shown).records edge.tableName = (s.edgeRelation shown edge).records := by
  cases edge <;> simp [Database.records, database, entityRelation, edgeRelation, entityTable, edgeTable,
    EntityKind.tableName, EdgeKind.tableName]

theorem database_eq_of_table {u : Store} (h : ∀ t, s.table t = u.table t) :
    s.database shown = u.database shown := by
  have hentities (kind : EntityKind) : s.entities kind = u.entities kind := h (.entities kind)
  have hedges (edge : EdgeKind) : s.edges edge = u.edges edge := h (.edges edge)
  have hentity : s.entityRelation shown = u.entityRelation shown := by
    funext kind
    rw [entityRelation, entityRelation, hentities]
  have hedge : s.edgeRelation shown = u.edgeRelation shown := by
    funext edge
    rw [edgeRelation, edgeRelation, hedges]
  rw [database, database, hentity, hedge]

end Store

theorem EntityKind.tableName_injective : Function.Injective tableName := by
  intro kind other
  cases kind <;> cases other <;> decide

theorem EdgeKind.tableName_injective : Function.Injective tableName := by
  intro edge other
  cases edge <;> cases other <;> decide

theorem EdgeKind.tableName_ne (edge : EdgeKind) (kind : EntityKind) : edge.tableName ≠ kind.tableName := by
  cases edge <;> cases kind <;> decide

namespace Store

theorem change_entities {kind : EntityKind} {table : Table Identity (Entity kind)}
    {rows : List Record → List Record}
    (h : rows ((s.entities kind).values.map (·.record shown)) = table.values.map (·.record shown)) :
    (s.database shown).change kind.tableName rows = (s.withEntities kind table).database shown := by
  apply update_eq_database
  · intro other
    rw [name_entityRelation, records_entityRelation, records_entityRelation]
    by_cases hk : kind = other
    · subst hk
      rw [if_pos rfl, entities_withEntities, h]
    · rw [if_neg (EntityKind.tableName_injective.ne (Ne.symm hk)), entities_withEntities_of_ne s hk]
  · intro edge
    rw [name_edgeRelation, if_neg (edge.tableName_ne kind), records_edgeRelation, records_edgeRelation,
      edges_withEntities]

theorem change_edges {edge : EdgeKind} {table : Table String Edge} {rows : List Record → List Record}
    (h : rows ((s.edges edge).values.map (·.record shown edge)) = table.values.map (·.record shown edge)) :
    (s.database shown).change edge.tableName rows = (s.withEdges edge table).database shown := by
  apply update_eq_database
  · intro kind
    rw [name_entityRelation, if_neg (edge.tableName_ne kind).symm, records_entityRelation, records_entityRelation,
      entities_withEdges]
  · intro other
    rw [name_edgeRelation, records_edgeRelation, records_edgeRelation]
    by_cases he : edge = other
    · subst he
      rw [if_pos rfl, edges_withEdges, h]
    · rw [if_neg (EdgeKind.tableName_injective.ne (Ne.symm he)), edges_withEdges_of_ne s he]

end Store

end SecretAccess
