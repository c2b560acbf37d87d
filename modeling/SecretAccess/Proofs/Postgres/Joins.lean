import SecretAccess.Postgres.Statements
import SecretAccess.Proofs.Schema.Constraints
import SecretAccess.Proofs.Schema.Select

namespace SecretAccess

open Schema Postgres

variable {shown : Timestamp → Document} {s : Store}

def Entity.columns (shown : Timestamp → Document) {kind : EntityKind} (row : Entity kind) : List Document :=
  (entityTable kind).columnNames.map fun name => ((row.record shown).value name).getD .null

theorem project_entityColumns {kind : EntityKind} {rows : Rows} {row : Entity kind}
    (h : rows.lookup kind.tableName = some (row.record shown)) :
    rows.project (entityColumns kind) = row.columns shown := by
  rw [Rows.project, entityColumns, columnsOf, List.map_map]
  apply List.map_congr_left
  intro name _
  rw [Function.comp]
  exact congrArg (·.getD .null) (Rows.value_of_lookup h name)

namespace Store

theorem WellFormed.extensions_entity (h : s.WellFormed) (shown : Timestamp → Document) (kind : EntityKind)
    {rows : Rows} {column : Sql.Column} {id : Given} (hcolumn : column.table ≠ kind.tableName)
    (hvalue : rows.value column = id) (hid : id.IsText) :
    (s.database shown).extensions (joinEntity kind column) rows =
      (s.get? kind id).toList.map fun row => (kind.tableName, row.record shown) :: rows := by
  have hget : ((s.entities kind).values.filter fun row => equal row.id id) = (s.get? kind id).toList := by
    rw [get?, s.key_of_isText hid]
    apply Table.filter_values
    intro row hrow
    rw [Bool.eq_iff_iff, equal_iff_right hid, decide_eq_true_iff,
      (h.entities kind).key (Table.get?_eq_some_iff.2 hrow), Identity.value.injEq]
  rw [Database.extensions, joinEntity, records_entities, records_entityRelation, List.map_map, List.filter_map,
    ← hget]
  refine congrArg (List.map _) (List.filter_congr fun row _ => ?_)
  rw [Function.comp, Function.comp, entityColumn, Rows.value_self, Rows.value_of_ne rows _ hcolumn, Entity.value_id,
    hvalue]

theorem extensions_edge (shown : Timestamp → Document) (edge : EdgeKind) {rows : Rows} {column : Sql.Column}
    {group : Given} (hcolumn : column.table ≠ edge.tableName) (hvalue : rows.value column = group)
    (hgroup : group.IsText) :
    (s.database shown).extensions (joinEdge edge column) rows =
      ((s.edges edge).values.filter fun row => row.group = group).map fun row =>
        (edge.tableName, row.record shown edge) :: rows := by
  rw [Database.extensions, joinEdge, records_edges, records_edgeRelation, List.map_map, List.filter_map]
  refine congrArg (List.map _) (List.filter_congr fun row _ => ?_)
  rw [Function.comp, Function.comp, groupColumn, Rows.value_self, Rows.value_of_ne rows _ hcolumn, Edge.value_group,
    hvalue, Bool.eq_iff_iff, equal_iff_right hgroup, decide_eq_true_iff]

theorem evaluate_eq_flatMap (edge : EdgeKind) {query : Sql.Select} (hsource : query.source = edge.tableName)
    {found : Edge → List (List Document)}
    (hfound : ∀ row ∈ (s.edges edge).values, (s.database shown).found query (row.record shown edge) = found row) :
    (s.database shown).evaluate query = (s.edges edge).values.flatMap found := by
  rw [Database.evaluate, hsource, records_edges, records_edgeRelation, List.flatMap_map]
  exact List.flatMap_congr hfound

theorem endpointsOf_eq (edge : EdgeKind) (group : Given) :
    s.endpointsOf edge group = ((s.edges edge).values.filter fun row => row.group = group).flatMap fun row =>
      (s.get? edge.endpoint row.endpoint).toList := by
  rw [← List.filterMap_eq_flatMap_toList, List.filterMap_filter]
  simp only [endpointsOf, decide_eq_true_iff]

theorem value_endpointColumn {rows : Rows} (edge : EdgeKind) (row : Edge)
    (h : rows.lookup edge.tableName = some (row.record shown edge)) :
    rows.value (endpointColumn edge) = row.endpoint := by
  rw [endpointColumn, Rows.value_of_lookup h, Edge.value_endpoint]

theorem value_groupColumn {rows : Rows} (edge : EdgeKind) (row : Edge)
    (h : rows.lookup edge.tableName = some (row.record shown edge)) :
    rows.value (groupColumn edge) = row.group := by
  rw [groupColumn, Rows.value_of_lookup h, Edge.value_group]

theorem value_entityColumn {rows : Rows} {kind : EntityKind} {row : Entity kind}
    (h : rows.lookup kind.tableName = some (row.record shown)) (column : String) :
    rows.value (entityColumn kind column) = (row.record shown).value column :=
  Rows.value_of_lookup h column

theorem meets_nameConditions {name : Given} (h : name = none ∨ name.IsText) (rows : Rows) :
    rows.meets (nameConditions name) =
      (name.isNone || (rows.value (entityColumn .secret "name")).sameAs name) := by
  rcases h with rfl | hname
  · rfl
  · obtain ⟨text, rfl⟩ := id hname
    have hsame := meets_cons hname rows (entityColumn .secret "name") []
    rw [Rows.meets_nil, Bool.and_true, Bool.eq_iff_iff, decide_eq_true_iff, ← hname.sameAs_iff,
      ← Bool.eq_iff_iff] at hsame
    exact hsame

def pathColumns (shown : Timestamp → Document) (path : SecretPath) : List Document :=
  path.secret.columns shown ++ [path.groupId.getD .null, path.groupName.getD .null]

section

variable (h : s.WellFormed) {query : Sql.Select}

include h

theorem WellFormed.found_entity {edge : EdgeKind} {row : Edge} {kind : EntityKind} {column condition : Sql.Column}
    {id given asked : Given} (hcolumn : column.table = edge.tableName) (hcondition : condition.table = edge.tableName)
    (hvalue : Rows.value [(edge.tableName, row.record shown edge)] column = id) (hid : id.IsText)
    (hgiven : Rows.value [(edge.tableName, row.record shown edge)] condition = given) (hasked : asked.IsText) :
    (s.database shown).found ⟨entityColumns kind, edge.tableName, [joinEntity kind column],
      [⟨condition, comparand asked⟩], none, none⟩ (row.record shown edge) =
        (if given = asked then s.get? kind id else none).toList.map (·.columns shown) := by
  have hne : edge.tableName ≠ kind.tableName := edge.tableName_ne kind
  have hjoin := h.extensions_entity shown kind (hcolumn ▸ hne) hvalue hid
  have hmeets (entity : Entity kind) : Rows.meets [(kind.tableName, entity.record shown),
      (edge.tableName, row.record shown edge)] [⟨condition, comparand asked⟩] = decide (given = asked) := by
    rw [meets_cons hasked, Rows.value_of_ne _ _ (hcondition ▸ hne), hgiven, Rows.meets_nil, Bool.and_true]
  refine Eq.trans (Database.found_eq (fun _ => decide (given = asked)) ((Database.joined_one ..).trans hjoin)
    (fun entity _ => hmeets entity) fun entity _ => project_entityColumns List.lookup_cons_self) ?_
  by_cases he : given = asked <;> simp [he]

theorem WellFormed.evaluate_groupsOf {edge : EdgeKind} {endpoint : Given} (hendpoint : endpoint.IsText)
    (hquery : selectGroupsOf edge endpoint = .select query) :
    (s.database shown).evaluate query = (s.groupsOf edge endpoint).map (·.columns shown) := by
  cases hquery
  rw [evaluate_eq_flatMap edge rfl, groupsOf, List.filterMap_eq_flatMap_toList, List.map_flatMap]
  intro row hrow
  exact h.found_entity rfl rfl (value_groupColumn edge row List.lookup_cons_self) (h.ends_isText edge hrow).2
    (value_endpointColumn edge row List.lookup_cons_self) hendpoint

theorem WellFormed.evaluate_endpointsOf {edge : EdgeKind} {group : Given} (hgroup : group.IsText)
    (hquery : selectEndpointsOf edge group = .select query) :
    (s.database shown).evaluate query = (s.endpointsOf edge group).map (·.columns shown) := by
  cases hquery
  rw [evaluate_eq_flatMap edge rfl, endpointsOf, List.filterMap_eq_flatMap_toList, List.map_flatMap]
  intro row hrow
  exact h.found_entity rfl rfl (value_endpointColumn edge row List.lookup_cons_self) (h.ends_isText edge hrow).1
    (value_groupColumn edge row List.lookup_cons_self) hgroup

theorem WellFormed.evaluate_clientsForSecret {secret : Given} (hsecret : secret.IsText)
    (hquery : selectClientsForSecret secret = .select query) :
    (s.database shown).evaluate query = (s.clientsForSecret secret).map (·.columns shown) := by
  cases hquery
  rw [evaluate_eq_flatMap .grant rfl, clientsForSecret, List.map_flatMap]
  · rfl
  intro grant hgrant
  let start : Rows := [(EdgeKind.grant.tableName, grant.record shown .grant)]
  let entered (row : Edge) : Rows := (EdgeKind.membership.tableName, row.record shown .membership) :: start
  let reached (pair : Edge × Client) : Rows := (EntityKind.client.tableName, pair.2.record shown) :: entered pair.1
  have hgroup : start.value (groupColumn .grant) = grant.group := value_groupColumn .grant grant List.lookup_cons_self
  have hmembers := extensions_edge (s := s) shown .membership (by decide) hgroup (h.ends_isText .grant hgrant).2
  have hclient : ∀ member ∈ s.memberships.values.filter fun row => row.group = grant.group,
      (s.database shown).joined [joinEntity .client (endpointColumn .membership)] (entered member) =
        (s.get? .client member.endpoint).toList.map fun client => reached (member, client) := by
    intro member hmember
    rw [Database.joined_one]
    exact h.extensions_entity shown .client (by decide)
      (value_endpointColumn .membership member List.lookup_cons_self)
      (h.ends_isText .membership (List.mem_of_mem_filter hmember)).1
  have hmeets (pair : Edge × Client) : (reached pair).meets [⟨endpointColumn .grant, comparand secret⟩] =
      decide (grant.endpoint = secret) := by
    rw [meets_cons hsecret, Rows.meets_nil, Bool.and_true, value_endpointColumn .grant grant rfl]
  refine Eq.trans (Database.found_eq (fun _ => decide (grant.endpoint = secret))
    (Database.joined_cons hmembers hclient) (fun pair _ => hmeets pair)
    fun pair _ => project_entityColumns List.lookup_cons_self) ?_
  by_cases he : grant.endpoint = secret
  · simp [he, endpointsOf_eq, List.map_flatMap, Function.comp_def]
  · simp [he]

theorem WellFormed.evaluate_secretPaths {client name : Given} (hclient : client.IsText)
    (hname : name = none ∨ name.IsText) (hquery : selectSecretPaths client name = .select query) :
    (s.database shown).evaluate query = ((s.pathsFrom client).filter fun path =>
      name.isNone || path.secret.name.sameAs name).map (pathColumns shown) := by
  cases hquery
  rw [evaluate_eq_flatMap .membership rfl, pathsFrom, List.filter_flatMap, List.map_flatMap]
  · rfl
  intro membership hmembership
  have htext := (h.ends_isText .membership hmembership).2
  let start : Rows := [(EdgeKind.membership.tableName, membership.record shown .membership)]
  let entered (group : Group) : Rows := (EntityKind.group.tableName, group.record shown) :: start
  let granted (group : Group) (grant : Edge) : Rows :=
    (EdgeKind.grant.tableName, grant.record shown .grant) :: entered group
  let reached (way : Group × Edge × Secret) : Rows :=
    (EntityKind.secret.tableName, way.2.2.record shown) :: granted way.1 way.2.1
  have hgroup : (s.database shown).extensions (joinEntity .group (groupColumn .membership)) start =
      (s.get? .group membership.group).toList.map entered :=
    h.extensions_entity shown .group (by decide)
      (value_groupColumn .membership membership List.lookup_cons_self) htext
  have hgrants (group : Group) : (s.database shown).extensions (joinEdge .grant (groupColumn .membership))
      (entered group) = (s.grants.values.filter fun row => row.group = membership.group).map (granted group) :=
    extensions_edge shown .grant (by decide) (value_groupColumn .membership membership rfl) htext
  have hsecret (group : Group) : ∀ grant ∈ s.grants.values.filter fun row => row.group = membership.group,
      (s.database shown).joined [joinEntity .secret (endpointColumn .grant)] (granted group grant) =
        (s.get? .secret grant.endpoint).toList.map fun secret => reached (group, grant, secret) := by
    intro grant hgrant
    rw [Database.joined_one]
    exact h.extensions_entity shown .secret (by decide) (value_endpointColumn .grant grant List.lookup_cons_self)
      (h.ends_isText .grant (List.mem_of_mem_filter hgrant)).1
  have hmeets (way : Group × Edge × Secret) :
      (reached way).meets (⟨endpointColumn .membership, comparand client⟩ :: nameConditions name) =
        (decide (membership.endpoint = client) && (name.isNone || way.2.2.name.sameAs name)) := by
    rw [meets_cons hclient, value_endpointColumn .membership membership rfl, meets_nameConditions hname,
      value_entityColumn List.lookup_cons_self, Entity.value_name]
  have hcolumns (way : Group × Edge × Secret) :
      (reached way).project (entityColumns .secret ++ [entityColumn .group "id", entityColumn .group "name"]) =
        pathColumns shown ⟨way.2.2, way.1.id, way.1.name⟩ := by
    have hgroup : (reached way).lookup EntityKind.group.tableName = some (way.1.record shown) := rfl
    rw [Rows.project_append, project_entityColumns List.lookup_cons_self, Rows.project, List.map_cons, List.map_cons,
      value_entityColumn hgroup, value_entityColumn hgroup]
    rfl
  have hways : (s.database shown).joined
      [joinEntity .group (groupColumn .membership), joinEdge .grant (groupColumn .membership),
        joinEntity .secret (endpointColumn .grant)] start = _ :=
    Database.joined_cons hgroup fun group _ => Database.joined_cons (hgrants group) (hsecret group)
  refine Eq.trans (Database.found_eq _ hways (fun way _ => hmeets way) fun way _ => hcolumns way) ?_
  cases hget : s.get? .group membership.group with
  | none => simp
  | some group =>
      have hid : group.id = membership.group := ((h.get?_iff htext).1 hget).2
      by_cases he : membership.endpoint = client
      · simp [he, hid, endpointsOf_eq, List.map_flatMap, List.filter_flatMap, List.filter_map, Function.comp_def]
        rfl
      · simp [he]

theorem WellFormed.isEmpty_evaluate_edge {edge : EdgeKind} {endpoint group : Given} (hendpoint : endpoint.IsText)
    (hgroup : group.IsText) (hquery : selectEdge edge endpoint group = .select query) :
    ((s.database shown).evaluate query).isEmpty = !s.linked edge endpoint group := by
  cases hquery
  have hfound (row : Edge) : (s.database shown).found ⟨[endpointColumn edge], edge.tableName, [],
      pairConditions edge endpoint group, none, some 1⟩ (row.record shown edge) = [] ↔
        ¬(row.endpoint = endpoint ∧ row.group = group) := by
    simp only [Database.found, Database.joined, List.filter_cons, List.filter_nil,
      meets_pair edge row hendpoint hgroup]
    by_cases hpair : row.endpoint = endpoint ∧ row.group = group <;> simp [hpair]
  rw [evaluate_eq_flatMap edge rfl fun _ _ => rfl, Bool.eq_iff_iff, List.isEmpty_iff, List.flatMap_eq_nil_iff,
    Bool.not_eq_true', ← Bool.not_eq_true, ← h.keyed.joined_iff hendpoint hgroup]
  simp only [hfound, Joined, not_exists, not_and]

end

end Store

end SecretAccess
