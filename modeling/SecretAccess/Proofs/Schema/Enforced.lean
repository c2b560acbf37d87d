import SecretAccess.Postgres.Statements
import SecretAccess.Proofs.Schema.Constraints
import SecretAccess.Proofs.Transaction.Serial

namespace SecretAccess

open Schema

variable {shown : Timestamp → Document} {s : Store}

namespace Store

theorem meets_id {kind : EntityKind} (row : Entity kind) {id : Given} (hid : id.IsText) :
    Rows.meets [(kind.tableName, row.record shown)] [⟨Postgres.entityColumn kind "id", Postgres.comparand id⟩] =
      decide (row.id = id) := by
  rw [meets_cons hid, Postgres.entityColumn, Rows.value_self, Entity.value_id]
  exact Bool.and_true _

theorem WellFormed.id_iff_key (h : s.WellFormed) {kind : EntityKind} {key : Identity} {row : Entity kind}
    (hget : (s.entities kind).get? key = some row) (id : Given) : row.id = id ↔ key = .value id := by
  rw [(h.entities kind).key hget, Identity.value.injEq]

section

variable (h : s.WellFormed)

include h

theorem WellFormed.meets_id_eq (shown : Timestamp → Document) (kind : EntityKind) {id : Given} (hid : id.IsText) :
    ∀ row ∈ (s.entities kind).rows, Rows.meets [(kind.tableName, row.2.record shown)]
      [⟨Postgres.entityColumn kind "id", Postgres.comparand id⟩] = decide (row.1 = .value id) := by
  intro row hrow
  rw [meets_id row.2 hid, decide_eq_decide]
  exact h.id_iff_key (Table.get?_eq_some_iff.2 hrow) id

theorem WellFormed.meets_pair_eq (shown : Timestamp → Document) (edge : EdgeKind) {endpoint group : Given}
    (hendpoint : endpoint.IsText) (hgroup : group.IsText) :
    ∀ row ∈ (s.edges edge).rows, Rows.meets [(edge.tableName, row.2.record shown edge)]
      (Postgres.pairConditions edge endpoint group) = decide (row.1 = pairKey endpoint group) := by
  intro row hrow
  rw [meets_pair edge row.2 hendpoint hgroup, decide_eq_decide]
  exact h.keyed.pair_iff_key (Table.get?_eq_some_iff.2 hrow) hendpoint hgroup

end

end Store

/-- What a statement that wrote so many rows of its table tells of the answer. -/
def Request.Reported (shown : Timestamp → Document) (before after : Database) (affected : Nat) :
    (request : Request) → request.Answer → Prop
  | .create kind _, row => after.records kind.tableName = before.records kind.tableName ++ [row.record shown]
  | .delete .., deleted => deleted = decide (0 < affected)
  | .get .., _ | .getByName .., _ | .list _, _ | .link .., _ | .unlink .., _ | .groupsOf .., _ | .endpointsOf .., _
  | .clientsForSecret _, _ | .secretPaths .., _ | .linked .., _ | .count _, _ => True

/-- The outcome of a request in memory beside that of a statement in a database with the same rows: one failure and
nothing changed, or the same rows and an answer that goes with them. -/
inductive Request.Agrees (shown : Timestamp → Document) (request : Request) (before : Database) :
    Except Failure request.Answer → Store → Except Failure (Nat × Database) → Prop
  | failed (failure : Failure) {after : Store} (same : after.database shown = before) :
      Agrees shown request before (.error failure) after (.error failure)
  | done {answer : request.Answer} {after : Store} {affected : Nat}
      (reported : request.Reported shown before (after.database shown) affected answer) :
      Agrees shown request before (.ok answer) after (.ok (affected, after.database shown))

namespace Store

theorem insert_entity {kind : EntityKind} (draft : Draft kind) (id : Given) (stamp : Timestamp) :
    (s.database shown).execute (shown stamp) (.insert kind.tableName (draft.values id) [] []) =
      match (s.entityRelation shown kind).takenKey? ((draft.entity id stamp).copy.record shown) with
      | some key => .error (.duplicate key)
      | none => .ok (1, (s.database shown).change kind.tableName
          (· ++ [(draft.entity id stamp).copy.record shown])) := by
  have hfill : (s.entityRelation shown kind).definition.fill (shown stamp) (draft.values id) = _ :=
    fill_values draft id stamp
  simp only [Database.execute, find?_entities, Database.insert, hfill]
  rfl

theorem records_put {kind : EntityKind} {key : Identity} (h : (s.entities kind).get? key = none) (row : Entity kind) :
    (((s.entities kind).put key row).values.map fun row => row.record shown) =
      (s.entityRelation shown kind).records ++ [row.record shown] := by
  rw [Table.values_put h, List.map_append]
  rfl

theorem WellFormed.create_agrees (h : s.WellFormed) {now : Instant} {stamp : Timestamp}
    (hstamp : now.toText? = some stamp) {kind : EntityKind} {input : Given}
    (hid : (input.field? "id").present = none ∨ (input.field? "id").IsText) (hname : (input.field? "name").IsText) :
    Request.Agrees shown (.create kind input) (s.database shown) (s.create now (input.draft kind)).answer
      (s.create now (input.draft kind)).store
      ((s.database shown).execute (shown stamp)
        (.insert kind.tableName ((input.draft kind).values (s.drawId kind (input.field? "id")).1) [] [])) := by
  have htext := isText_drawId s kind hid
  have htables := table_drawId s kind (input.field? "id")
  have hasked : (input.draft kind).id = input.field? "id" := rfl
  cases hdraw : s.drawId kind (input.field? "id") with
  | mk id drawn =>
      rw [hdraw] at htext htables
      have hrows : drawn.WellFormed := h.of_same fun t key => by rw [htables]
      let row := ((input.draft kind).entity id stamp).copy
      have hrefusal : drawn.createRefusal kind id (input.draft kind).name =
          ((drawn.entityRelation shown kind).takenKey? (row.record shown)).map .duplicate :=
        hrows.createRefusal_eq row htext hname
      rw [← database_eq_of_table htables, insert_entity]
      simp only [Store.create, hasked, hdraw, hstamp, hrefusal]
      cases htaken : (drawn.entityRelation shown kind).takenKey? (row.record shown) with
      | some key => exact .failed _ rfl
      | none =>
          rw [htaken] at hrefusal
          have hfree : (drawn.entities kind).get? (drawn.key id) = none := (createRefusal_eq_none_iff.1 hrefusal).1
          have hplaced := table_withPlaceFor drawn id
          have hentities : (drawn.withPlaceFor id).entities kind = drawn.entities kind := hplaced (.entities kind)
          let after := (drawn.withPlaceFor id).withEntities kind ((drawn.entities kind).put (drawn.key id) row)
          have hgrown : (drawn.database shown).change kind.tableName (· ++ [row.record shown]) =
              after.database shown := by
            rw [← database_eq_of_table hplaced]
            exact change_entities (by rw [hentities, records_put hfree]; rfl)
          have hreported : Request.Reported shown (drawn.database shown) (after.database shown) 1
              (.create kind input) row := by
            rw [Request.Reported, records_entities, records_entities, records_entityRelation, entities_withEntities,
              records_put hfree]
          rw [hgrown]
          exact .done hreported

theorem WellFormed.delete_agrees (h : s.WellFormed) (now : Document) (kind : EntityKind) {id : Given}
    (hid : id.IsText) :
    Request.Agrees shown (.delete kind id) (s.database shown) (s.delete kind id).answer (s.delete kind id).store
      ((s.database shown).execute now (Postgres.deleteEntity kind id)) := by
  let conditions : List Sql.Condition := [⟨Postgres.entityColumn kind "id", Postgres.comparand id⟩]
  let test (row : Entity kind) : Bool := Rows.meets [(kind.tableName, row.record shown)] conditions
  have hmeets := h.meets_id_eq shown kind hid
  have hkey : Identity.value id = s.key id := (s.key_of_isText hid).symm
  have hgone : ((s.entityRelation shown kind).records.filter fun record =>
      Rows.meets [(kind.tableName, record)] conditions).map (kind.tableName, ·) =
        (s.get? kind id).toList.map fun row => (kind.tableName, row.record shown) := by
    rw [records_entityRelation, List.filter_map, List.map_map, get?, ← hkey, ← Table.filter_values test hmeets]
    rfl
  have hleft : ((s.database shown).change kind.tableName (·.filter fun record =>
      !Rows.meets [(kind.tableName, record)] conditions)) =
        (s.withEntities kind ((s.entities kind).erase (s.key id))).database shown := by
    apply change_entities
    rw [← hkey, Table.values_erase test hmeets, List.filter_map]
    rfl
  have hwhole : ((s.delete kind id).store.database shown).broken? = none := (h.delete kind hid).broken?_eq_none
  simp only [Postgres.deleteEntity, Database.execute, find?_entities]
  rcases delete_cases s kind id with ⟨hnone, hd⟩ | ⟨row, hrow, hd⟩
  · rw [hnone] at hgone
    rw [hd] at hwhole ⊢
    have hstill : (s.database shown).follow [] = s.database shown :=
      Database.follow_eq_self (matching_follows_eq_nil fun _ hrow => absurd hrow List.not_mem_nil)
    rw [Table.erase_eq_self hnone, withEntities_self] at hleft
    rw [Database.delete_eq_ok hgone (by rw [name_entityRelation, hleft]; exact hstill) hwhole]
    exact .done rfl
  · have hrowid : row.id = id := (h.id_iff_key hrow id).2 (s.key_of_isText hid)
    rw [hrow] at hgone
    rw [hd] at hwhole ⊢
    have hfollow := follow_entity shown (s.withEntities kind ((s.entities kind).erase (s.key id)))
      (hrowid.symm ▸ hid : row.id.IsText)
    rw [hrowid] at hfollow
    rw [Database.delete_eq_ok hgone (by rw [name_entityRelation, hleft]; exact hfollow) hwhole]
    exact .done rfl

theorem WellFormed.insert_edge (h : s.WellFormed) (edge : EdgeKind) {endpoint group : Given} (stamp : Timestamp)
    (hendpoint : endpoint.IsText) (hgroup : group.IsText) :
    (s.database shown).execute (shown stamp) (Postgres.insertEdge edge endpoint group) =
      let record := (Edge.mk endpoint group stamp).record shown edge
      let grown := (s.database shown).change edge.tableName (· ++ [record])
      if s.linked edge endpoint group = true then .ok (0, s.database shown)
      else match grown.dangling? (edgeTable edge) record with
        | some key => .error (.dangling edge.tableName ((edgeTable edge).foreignKeyName key))
        | none => .ok (1, grown) := by
  have hfill : (s.edgeRelation shown edge).definition.fill (shown stamp)
      [(edge.endpointColumn, endpoint), ("group_id", group), ("created_at", none)] = _ :=
    fill_edge edge endpoint group stamp
  have hagree : _ = s.linked edge endpoint group :=
    h.any_agree_edge shown edge ⟨endpoint, group, stamp⟩ hendpoint hgroup
  have hkeys : (s.edgeRelation shown edge).definition.keys = _ := keys_edgeTable edge
  simp only [Postgres.insertEdge, Database.execute, find?_edges, Database.insert, hfill, Relation.takenKey?, hkeys,
    List.find?_cons, List.find?_nil, hagree]
  cases s.linked edge endpoint group <;> rfl

theorem linkRefusal_withEdges (edge other : EdgeKind) (rows : Table String Edge) (endpoint group : Given) :
    (s.withEdges edge rows).linkRefusal other endpoint group = s.linkRefusal other endpoint group := by
  cases edge <;> cases other <;> rfl

theorem WellFormed.linkRefusal_eq_none (h : s.WellFormed) {edge : EdgeKind} {endpoint group : Given}
    (hjoined : s.Joined edge endpoint group) : s.linkRefusal edge endpoint group = none := by
  obtain ⟨hendpoint, hgroup⟩ := h.isText_of_joined hjoined
  apply linkRefusal_eq_none_iff.2
  rw [contains, contains, s.key_of_isText hendpoint, s.key_of_isText hgroup]
  exact ⟨h.contains_of_isEnd hjoined (.inl ⟨rfl, rfl⟩), h.contains_of_isEnd hjoined (.inr ⟨rfl, rfl⟩)⟩

theorem WellFormed.link_agrees (h : s.WellFormed) {now : Instant} {stamp : Timestamp}
    (hstamp : now.toText? = some stamp) (edge : EdgeKind) {endpoint group : Given} (hendpoint : endpoint.IsText)
    (hgroup : group.IsText) :
    Request.Agrees shown (.link edge endpoint group) (s.database shown) (s.link now edge endpoint group).answer
      (s.link now edge endpoint group).store
      ((s.database shown).execute (shown stamp) (Postgres.insertEdge edge endpoint group)) := by
  rw [h.insert_edge edge stamp hendpoint hgroup]
  by_cases hlinked : s.linked edge endpoint group = true
  · have hrefusal := h.linkRefusal_eq_none ((h.keyed.joined_iff hendpoint hgroup).2 hlinked)
    have hthere : (s.edges edge).contains (pairKey endpoint group) = true := hlinked
    simp only [Store.link, hrefusal, if_pos hthere, if_pos hlinked]
    exact .done trivial
  · have hnone : (s.edges edge).get? (pairKey endpoint group) = none := Option.not_isSome_iff_eq_none.1 hlinked
    have hthere : ¬(s.edges edge).contains (pairKey endpoint group) = true := hlinked
    let after := s.withEdges edge ((s.edges edge).put (pairKey endpoint group) ⟨endpoint, group, stamp⟩)
    have hgrown : (s.database shown).change edge.tableName
        (· ++ [(Edge.mk endpoint group stamp).record shown edge]) = after.database shown := by
      apply change_edges
      rw [Table.values_put hnone, List.map_append]
      rfl
    have hrows : ∀ kind, (after.entities kind).Identified := fun kind => by
      rw [entities_withEdges]
      exact h.entities kind
    have hrefusal : s.linkRefusal edge endpoint group =
        ((after.database shown).dangling? (edgeTable edge) ((Edge.mk endpoint group stamp).record shown edge)).map
          fun key => .dangling edge.tableName ((edgeTable edge).foreignKeyName key) := by
      rw [← linkRefusal_eq hrows edge hendpoint hgroup, linkRefusal_withEdges]
    simp only [Store.link, hrefusal, hstamp, if_neg hthere, if_neg hlinked, hgrown]
    cases (after.database shown).dangling? (edgeTable edge) ((Edge.mk endpoint group stamp).record shown edge) with
    | some key => exact .failed _ rfl
    | none => exact .done trivial

theorem WellFormed.unlink_agrees (h : s.WellFormed) (now : Document) (edge : EdgeKind) {endpoint group : Given}
    (hendpoint : endpoint.IsText) (hgroup : group.IsText) :
    Request.Agrees shown (.unlink edge endpoint group) (s.database shown) (s.unlink edge endpoint group).answer
      (s.unlink edge endpoint group).store
      ((s.database shown).execute now (Postgres.deleteEdge edge endpoint group)) := by
  let conditions := Postgres.pairConditions edge endpoint group
  let test (row : Edge) : Bool := Rows.meets [(edge.tableName, row.record shown edge)] conditions
  have hmeets := h.meets_pair_eq shown edge hendpoint hgroup
  have hgone : ((s.edgeRelation shown edge).records.filter fun record =>
      Rows.meets [(edge.tableName, record)] conditions).map (edge.tableName, ·) =
        ((s.edges edge).get? (pairKey endpoint group)).toList.map fun row =>
          (edge.tableName, row.record shown edge) := by
    rw [records_edgeRelation, List.filter_map, List.map_map, ← Table.filter_values test hmeets]
    rfl
  have hleft : ((s.database shown).change edge.tableName (·.filter fun record =>
      !Rows.meets [(edge.tableName, record)] conditions)) =
        (s.withEdges edge ((s.edges edge).erase (pairKey endpoint group))).database shown := by
    apply change_edges
    rw [Table.values_erase test hmeets, List.filter_map]
    rfl
  have hwhole : ((s.unlink edge endpoint group).store.database shown).broken? = none :=
    (h.unlink edge endpoint group).broken?_eq_none
  have hstill (u : Store) {gone : Rows} (hends : ∀ row ∈ gone, row.1 = edge.tableName) :
      (u.database shown).follow gone = u.database shown :=
    Database.follow_eq_self (matching_follows_eq_nil fun row hrow => ⟨edge, hends row hrow⟩)
  simp only [Postgres.deleteEdge, Database.execute, find?_edges]
  rcases unlink_cases s edge endpoint group with ⟨hnone, hu⟩ | ⟨row, hrow, hu⟩
  · rw [hu] at hwhole ⊢
    rw [Table.erase_eq_self hnone, withEdges_self] at hleft
    rw [Database.delete_eq_ok hgone (by rw [name_edgeRelation, hleft]; exact hstill s (by simp [hnone])) hwhole]
    exact .done trivial
  · rw [hu] at hwhole ⊢
    rw [Database.delete_eq_ok hgone (by rw [name_edgeRelation, hleft]; exact hstill _ (by simp [hrow])) hwhole]
    exact .done trivial

def idTaken (s : Store) : Request → Given
  | .create kind input => (s.drawId kind (input.field? "id")).1
  | _ => none

end Store

def Request.statement? (id : Given) : Request → Option Sql.Statement
  | .create kind input => some (.insert kind.tableName ((input.draft kind).values id) [] [])
  | .delete kind id => some (Postgres.deleteEntity kind id)
  | .link edge endpoint group => some (Postgres.insertEdge edge endpoint group)
  | .unlink edge endpoint group => some (Postgres.deleteEdge edge endpoint group)
  | .get .. | .getByName .. | .list _ | .groupsOf .. | .endpointsOf .. | .clientsForSecret _ | .secretPaths ..
  | .linked .. | .count _ => none

theorem Store.WellFormed.answer_agrees (h : s.WellFormed) {now : Instant} {stamp : Timestamp}
    (hstamp : now.toText? = some stamp) {request : Request} (ht : request.Textual) {statement : Sql.Statement}
    (hstatement : request.statement? (s.idTaken request) = some statement) :
    request.Agrees shown (s.database shown) (s.answer now request).answer (s.answer now request).store
      ((s.database shown).execute (shown stamp) statement) := by
  cases request with
  | create kind input =>
      cases hstatement
      have hpart := Given.part_eq_ok ht.2.isSome "id"
      simp only [Store.answer, createAsked, hpart]
      exact h.create_agrees hstamp ht.1 ht.2
  | delete kind id =>
      cases hstatement
      exact h.delete_agrees _ kind ht
  | link edge endpoint group =>
      cases hstatement
      exact h.link_agrees hstamp edge ht.1 ht.2
  | unlink edge endpoint group =>
      cases hstatement
      exact h.unlink_agrees _ edge ht.1 ht.2
  | get | getByName | list | groupsOf | endpointsOf | clientsForSecret | secretPaths | linked | count =>
      cases hstatement

theorem Instant.exists_stamp {now : Instant} (h : now.inRange = true) : ∃ stamp, now.toText? = some stamp := by
  rw [toText?, if_pos h]
  exact ⟨_, rfl⟩

theorem Request.exists_statement {request : Request} (h : request.writes = true) (id : Given) :
    ∃ statement, request.statement? id = some statement := by
  cases request with
  | create | delete | link | unlink => exact ⟨_, rfl⟩
  | get | getByName | list | groupsOf | endpointsOf | clientsForSecret | secretPaths | linked | count => cases h

namespace Queue

/-- Wherever a serial run has come to, and in whichever context, a write has the outcome that the declared tables give
its statement. -/
theorem schema_enforced (shown : Timestamp → Document) (now : Instant) (quiet : Bool) {events : List Event}
    (hserial : (make now quiet).Serially events) (journaled : Bool) {request : Request}
    (hwrites : request.writes = true) (ht : request.Textual)
    (hclock : ((make now quiet).run events).session.clock.inRange = true) :
    let session := ((make now quiet).run events).session
    let (answer, after) := session.run journaled (.request request)
    ∃ stamp statement, session.clock.toText? = some stamp ∧
      request.statement? (session.store.idTaken request) = some statement ∧
      request.Agrees shown (session.store.database shown) answer after.store
        ((session.store.database shown).execute (shown stamp) statement) := by
  have hrows := (sound_run (make_sound now quiet) hserial).rows
  obtain ⟨stamp, hstamp⟩ := Instant.exists_stamp hclock
  obtain ⟨statement, hstatement⟩ := Request.exists_statement hwrites
    (((make now quiet).run events).session.store.idTaken request)
  exact ⟨stamp, statement, hstamp, hstatement, hrows.answer_agrees hstamp ht hstatement⟩

def sharedGroup : List Event :=
  let create (kind : EntityKind) (id name : String) : Event :=
    .step (.call .autocommit (.request (.create kind (some (.fields [("id", .text id), ("name", .text name)])))))
  [create .group "g" "web", create .client "c" "ci", create .secret "s" "db",
    .step (.call .autocommit (.request (.link .membership "c" "g"))),
    .step (.call .autocommit (.request (.link .grant "s" "g")))]

theorem schema_enforced_sharedGroup :
    let session := ((make 0 true).run sharedGroup).session
    let request := Request.delete .group "g"
    let (answer, after) := session.run false (.request request)
    (make 0 true).Serially sharedGroup ∧ request.writes = true ∧ request.Textual ∧
      session.clock.inRange = true ∧ after.store.sizes = [1, 0, 1, 0, 0] ∧
      ∃ stamp statement, session.clock.toText? = some stamp ∧
        request.statement? (session.store.idTaken request) = some statement ∧
        request.Agrees .text (session.store.database .text) answer after.store
          ((session.store.database .text).execute (.text stamp) statement) :=
  ⟨by decide, rfl, by decide, by decide, by decide,
    schema_enforced .text 0 true (by decide) false rfl (by decide) (by decide)⟩

end Queue

end SecretAccess
