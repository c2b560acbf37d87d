import SecretAccess.Postgres.Statements
import SecretAccess.Proofs.Schema.Contents

namespace SecretAccess

open Schema

def traitsGiven : (kind : EntityKind) → Traits kind → Record
  | .client, asked => [("enabled", asked.enabled.present)]
  | .group, asked => [("metadata", asked.metadata.present.map fun value => .fields value.spread)]
  | .secret, asked => [("type", asked.contentType),
      ("metadata", asked.metadata.present.map fun value => .fields value.spread)]

def Draft.values {kind : EntityKind} (draft : Draft kind) (id : Given) : Record :=
  [("id", id), ("name", draft.name), ("description", draft.description)] ++ traitsGiven kind draft.traits ++
    [("created_at", none), ("created_by", draft.createdBy), ("updated_at", none), ("updated_by", draft.createdBy)]

variable {shown : Timestamp → Document} {s : Store}

theorem Given.orElse_eq (given : Given) (fallback : Document) :
    given.orElse fallback = some (given.present.getD fallback) := by
  rw [orElse]
  cases given.present <;> rfl

theorem getD_fields_spread (given : Given) :
    (given.present.map fun value => .fields value.spread).getD (.fields []) =
      Document.fields (Given.spread (some (given.present.getD (.fields [])))) := by
  cases given.present <;> rfl

theorem fill_values {kind : EntityKind} (draft : Draft kind) (id : Given) (stamp : Timestamp) :
    (entityTable kind).fill (shown stamp) (draft.values id) = (draft.entity id stamp).copy.record shown := by
  cases kind <;>
    simp [TableDefinition.fill, entityTable, idColumns, traitColumns, metadataColumn, auditColumns,
      ColumnDefinition.primaryKey, ColumnDefinition.required, ColumnDefinition.optional, ColumnDefinition.asUnique,
      ColumnDefinition.withDefault, ColumnDefault.value, Record.value, Draft.values, traitsGiven, Entity.record,
      traitRecord, Entity.copy, Draft.entity, copiedTraits, settledTraits, Given.orElse_eq, getD_fields_spread,
      List.lookup]

theorem fill_edge (edge : EdgeKind) (endpoint group : Given) (stamp : Timestamp) :
    (edgeTable edge).fill (shown stamp) [(edge.endpointColumn, endpoint), ("group_id", group), ("created_at", none)] =
      (Edge.mk endpoint group stamp).record shown edge := by
  cases edge <;>
    simp [TableDefinition.fill, edgeTable, EdgeKind.endpointColumn, ColumnDefinition.required,
      ColumnDefinition.withDefault, ColumnDefault.value, Record.value, Edge.record, List.lookup]

theorem keys_entityTable (kind : EntityKind) :
    (entityTable kind).keys =
      [(s!"{kind.tableName}_pkey", ["id"]), (s!"{kind.tableName}_name_unique", ["name"])] := by
  cases kind <;> rfl

theorem keys_edgeTable (edge : EdgeKind) :
    (edgeTable edge).keys = [((edgeTable edge).compositeKeyName, [edge.endpointColumn, "group_id"])] := by
  cases edge <;> rfl

theorem equal_iff_left {a b : Given} (h : a.IsText) : equal a b = true ↔ a = b := by
  obtain ⟨text, rfl⟩ := h
  simp [equal, Given.present]

theorem equal_iff_right {a b : Given} (h : b.IsText) : equal a b = true ↔ a = b := by
  obtain ⟨text, rfl⟩ := h
  simp only [equal, Bool.and_eq_true, decide_eq_true_iff, and_iff_right_iff_imp]
  rintro rfl
  rfl

theorem Given.IsText.some_comparand {given : Given} (h : given.IsText) : some (Postgres.comparand given) = given := by
  obtain ⟨text, rfl⟩ := h
  rfl

theorem meets_cons {given : Given} (h : given.IsText) (rows : Rows) (column : Sql.Column)
    (conditions : List Sql.Condition) :
    rows.meets (⟨column, Postgres.comparand given⟩ :: conditions) =
      (decide (rows.value column = given) && rows.meets conditions) := by
  have hequal : equal (rows.value column) given = decide (rows.value column = given) := by
    rw [Bool.eq_iff_iff, equal_iff_right h, decide_eq_true_iff]
  rw [← hequal, ← h.some_comparand]
  rfl

theorem meets_pair (edge : EdgeKind) (row : Edge) {endpoint group : Given} (hendpoint : endpoint.IsText)
    (hgroup : group.IsText) :
    Rows.meets [(edge.tableName, row.record shown edge)] (Postgres.pairConditions edge endpoint group) =
      decide (row.endpoint = endpoint ∧ row.group = group) := by
  rw [Postgres.pairConditions, meets_cons hendpoint, meets_cons hgroup, Postgres.endpointColumn, Rows.value_self,
    Edge.value_endpoint, Postgres.groupColumn, Rows.value_self, Edge.value_group, Bool.decide_and]
  exact congrArg _ (Bool.and_true _)

theorem any_agree {kind : EntityKind} {rows : List (Entity kind)} {row : Entity kind} {column : String}
    {value : Entity kind → Given} (hvalue : ∀ row, (row.record shown).value column = value row)
    (htext : (value row).IsText) :
    (rows.map (·.record shown)).any (agree [column] (row.record shown)) = true ↔
      ∃ other ∈ rows, value other = value row := by
  rw [List.any_map, List.any_eq_true]
  refine exists_congr fun other => and_congr_right fun _ => ?_
  rw [Function.comp, agree, List.all_cons, List.all_nil, Bool.and_true, hvalue, hvalue, equal_iff_left htext, eq_comm]

namespace Store

theorem WellFormed.contains_iff (h : s.WellFormed) {kind : EntityKind} {id : Given} (hid : id.IsText) :
    s.contains kind id = true ↔ ∃ row ∈ (s.entities kind).values, row.id = id := by
  rw [contains, s.key_of_isText hid]
  exact (h.entities kind).contains_iff

theorem WellFormed.createRefusal_eq (h : s.WellFormed) {kind : EntityKind} (row : Entity kind) (hid : row.id.IsText)
    (hname : row.name.IsText) :
    s.createRefusal kind row.id row.name =
      ((s.entityRelation shown kind).takenKey? (row.record shown)).map Failure.duplicate := by
  have hids : (s.entityRelation shown kind).records.any (agree ["id"] (row.record shown)) =
      s.contains kind row.id := by
    rw [Bool.eq_iff_iff, h.contains_iff hid]
    exact any_agree (Entity.value_id shown) hid
  have hnames : (s.entityRelation shown kind).records.any (agree ["name"] (row.record shown)) =
      (s.entities kind).values.any (·.name.sameAs row.name) := by
    rw [Bool.eq_iff_iff]
    refine (any_agree (Entity.value_name shown) hname).trans (Iff.trans ?_ List.any_eq_true.symm)
    exact exists_congr fun other => and_congr_right fun _ => hname.sameAs_iff.symm
  have hkeys : (s.entityRelation shown kind).definition.keys = _ := keys_entityTable kind
  rw [createRefusal, Relation.takenKey?, hkeys, List.find?_cons, List.find?_cons, hids, hnames]
  cases s.contains kind row.id with
  | true => rfl
  | false => cases (s.entities kind).values.any (·.name.sameAs row.name) <;> rfl

theorem WellFormed.any_agree_edge (h : s.WellFormed) (shown : Timestamp → Document) (edge : EdgeKind) (row : Edge)
    (hendpoint : row.endpoint.IsText) (hgroup : row.group.IsText) :
    (s.edgeRelation shown edge).records.any (agree [edge.endpointColumn, "group_id"] (row.record shown edge)) =
      s.linked edge row.endpoint row.group := by
  rw [Bool.eq_iff_iff, ← h.keyed.joined_iff hendpoint hgroup, records_edgeRelation, List.any_map, List.any_eq_true]
  refine exists_congr fun other => and_congr_right fun _ => ?_
  rw [Function.comp, agree, List.all_cons, List.all_cons, List.all_nil, Bool.and_true, Bool.and_eq_true,
    Edge.value_endpoint, Edge.value_endpoint, Edge.value_group, Edge.value_group, equal_iff_left hendpoint,
    equal_iff_left hgroup, eq_comm, @eq_comm _ row.group]

def endpointKey (edge : EdgeKind) : ForeignKey :=
  ⟨edge.endpointColumn, edge.endpoint.tableName, "id", .cascade, .noAction⟩

def groupKey : ForeignKey := ⟨"group_id", EntityKind.group.tableName, "id", .cascade, .noAction⟩

theorem foreignKeys_edgeTable (edge : EdgeKind) : (edgeTable edge).foreignKeys = [endpointKey edge, groupKey] := rfl

theorem danglingEndpoint_eq (edge : EdgeKind) :
    danglingEndpoint edge = .dangling edge.tableName ((edgeTable edge).foreignKeyName (endpointKey edge)) := by
  cases edge <;> rfl

theorem danglingGroup_eq (edge : EdgeKind) :
    danglingGroup edge = .dangling edge.tableName ((edgeTable edge).foreignKeyName groupKey) := by
  cases edge <;> rfl

theorem unanswered_eq (shown : Timestamp → Document) (hrows : ∀ kind, (s.entities kind).Identified)
    (kind : EntityKind) {id : Given} (hid : id.IsText) :
    (id.present.isSome && !((s.database shown).records kind.tableName).any fun other => equal id (other.value "id")) =
      !s.contains kind id := by
  have hpresent : id.present.isSome = true := by
    obtain ⟨text, rfl⟩ := hid
    rfl
  have hany : (((s.database shown).records kind.tableName).any fun other => equal id (other.value "id")) =
      s.contains kind id := by
    rw [Bool.eq_iff_iff, contains, s.key_of_isText hid, (hrows kind).contains_iff, records_entities,
      records_entityRelation, List.any_map, List.any_eq_true]
    refine exists_congr fun other => and_congr_right fun _ => ?_
    rw [Function.comp, Entity.value_id, equal_iff_left hid, eq_comm]
  rw [hpresent, hany, Bool.true_and]

theorem dangling?_edge (hrows : ∀ kind, (s.entities kind).Identified) (edge : EdgeKind) {row : Edge}
    (hendpoint : row.endpoint.IsText) (hgroup : row.group.IsText) :
    (s.database shown).dangling? (edgeTable edge) (row.record shown edge) =
      if !s.contains edge.endpoint row.endpoint then some (endpointKey edge)
      else if !s.contains .group row.group then some groupKey
      else none := by
  have hend := unanswered_eq shown hrows edge.endpoint hendpoint
  have hgrp := unanswered_eq shown hrows .group hgroup
  rw [← Edge.value_endpoint shown edge row] at hend
  rw [← Edge.value_group shown edge row] at hgrp
  simp only [Database.dangling?, foreignKeys_edgeTable, List.find?_cons, endpointKey, groupKey, hend, hgrp,
    List.find?_nil]
  rw [Edge.value_endpoint, Edge.value_group]
  cases s.contains edge.endpoint row.endpoint <;> cases s.contains .group row.group <;> rfl

/-- The reference that an edge breaks is the one for which the store refuses it. -/
theorem linkRefusal_eq (hrows : ∀ kind, (s.entities kind).Identified) (edge : EdgeKind) {row : Edge}
    (hendpoint : row.endpoint.IsText) (hgroup : row.group.IsText) :
    s.linkRefusal edge row.endpoint row.group =
      ((s.database shown).dangling? (edgeTable edge) (row.record shown edge)).map fun key =>
        .dangling edge.tableName ((edgeTable edge).foreignKeyName key) := by
  rw [dangling?_edge hrows edge hendpoint hgroup, linkRefusal, danglingEndpoint_eq, danglingGroup_eq]
  cases s.contains edge.endpoint row.endpoint <;> cases s.contains .group row.group <;> rfl

theorem WellFormed.broken?_eq_none (h : s.WellFormed) : (s.database shown).broken? = none := by
  apply List.findSome?_eq_none_iff.2
  intro relation hrelation
  apply List.findSome?_eq_none_iff.2
  intro record hrecord
  rw [Option.map_eq_none_iff]
  rcases mem_database.1 hrelation with ⟨kind, rfl⟩ | ⟨edge, rfl⟩
  · rfl
  · obtain ⟨row, hrow, rfl⟩ := List.mem_map.1 hrecord
    obtain ⟨key, hget⟩ := Table.mem_values_iff.1 hrow
    obtain ⟨hendpoint, hgroup⟩ := h.ends_isText edge hrow
    have hstored := (h.edges edge).endpoint hget
    have hstored' := (h.edges edge).group hget
    rw [← s.key_of_isText hendpoint] at hstored
    rw [← s.key_of_isText hgroup] at hstored'
    exact (dangling?_edge h.entities edge hendpoint hgroup).trans (by rw [contains, hstored, contains, hstored']; rfl)

theorem follows_edge {kind : EntityKind} {row : Entity kind} (hid : row.id.IsText) (edge : EdgeKind) (link : Edge) :
    follows [(kind.tableName, row.record shown)] (edgeTable edge) (link.record shown edge) =
      refers edge kind row.id link := by
  have hend := Edge.value_endpoint shown edge link
  have hgrp := Edge.value_group shown edge link
  have hname (other : EntityKind) : (kind.tableName = other.tableName) = (kind = other) :=
    propext EntityKind.tableName_injective.eq_iff
  have hequal (id : Given) : equal id row.id = decide (id = row.id) := by
    rw [Bool.eq_iff_iff, equal_iff_right hid, decide_eq_true_iff]
  simp [follows, foreignKeys_edgeTable, endpointKey, groupKey, hend, hgrp, Entity.value_id, hname, hequal, refers]

theorem foreignTable_eq {relation : Relation} (hrelation : relation ∈ s.database shown) {key : ForeignKey}
    (hkey : key ∈ relation.definition.foreignKeys) : ∃ kind : EntityKind, key.foreignTable = kind.tableName := by
  rcases mem_database.1 hrelation with ⟨kind, rfl⟩ | ⟨edge, rfl⟩
  · cases hkey
  · have hkeys : key ∈ [endpointKey edge, groupKey] := hkey
    rcases List.mem_pair.1 hkeys with rfl | rfl
    · exact ⟨edge.endpoint, rfl⟩
    · exact ⟨.group, rfl⟩

theorem matching_follows_eq_nil {gone : Rows} (h : ∀ row ∈ gone, ∃ edge : EdgeKind, row.1 = edge.tableName) :
    (s.database shown).matching (follows gone) = [] := by
  apply Database.matching_eq_nil_iff.2
  intro relation hrelation record _
  apply List.any_eq_false.2
  intro key hkey hfollows
  obtain ⟨kind, hkind⟩ := foreignTable_eq hrelation hkey
  obtain ⟨row, hrow, hrefers⟩ := List.any_eq_true.1 (Bool.and_eq_true_iff.1 hfollows).2
  obtain ⟨edge, hedge⟩ := h row hrow
  have htable : row.1 = key.foreignTable := of_decide_eq_true (Bool.and_eq_true_iff.1 hrefers).1
  exact edge.tableName_ne kind (by rw [← hedge, htable, hkind])

theorem follow_entity (shown : Timestamp → Document) (s : Store) {kind : EntityKind} {row : Entity kind}
    (hid : row.id.IsText) :
    (s.database shown).follow [(kind.tableName, row.record shown)] = (s.cascade row.id kind).1.database shown := by
  have hround : (s.database shown).without (follows [(kind.tableName, row.record shown)]) =
      (s.cascade row.id kind).1.database shown := by
    apply update_eq_database
    · intro other
      rw [records_entityRelation, records_entityRelation, entities_cascade]
      exact List.filter_eq_self.2 fun _ _ => rfl
    · intro edge
      rw [records_edgeRelation, records_edgeRelation, edges_cascade,
        Table.values_keep _ fun link => !refers edge kind row.id link, List.filter_map]
      refine congrArg (List.map _) (List.filter_congr fun link _ => ?_)
      exact congrArg (!·) (follows_edge hid edge link)
  rw [Database.follow_once, hround]
  rw [hround]
  apply matching_follows_eq_nil
  intro other hother
  obtain ⟨relation, hrelation, hmatch⟩ := List.mem_flatMap.1 hother
  obtain ⟨record, hrecord, rfl⟩ := List.mem_map.1 hmatch
  rcases mem_database.1 hrelation with ⟨kind, rfl⟩ | ⟨edge, rfl⟩
  · cases (List.mem_filter.1 hrecord).2
  · exact ⟨edge, rfl⟩

end Store

end SecretAccess
