import Mathlib.Data.List.Perm.Basic
import SecretAccess.Postgres.Connection
import SecretAccess.Proofs.Access.Listing
import SecretAccess.Proofs.Number.Whole
import SecretAccess.Proofs.Postgres.Joins
import SecretAccess.Proofs.Store.Same
import SecretAccess.Proofs.Transaction.Serial

namespace SecretAccess

open Schema Postgres

variable {shown : Timestamp → Document}

/-- A row that a database can keep and give back: its table admits it, and its times are read as what they were. -/
structure Entity.ComesBack (shown : Timestamp → Document) {kind : EntityKind} (row : Entity kind) : Prop where
  admitted : (entityTable kind).Admits (row.record shown)
  created : timestamp (some (shown row.createdAt)) = .ok row.createdAt
  updated : timestamp (some (shown row.updatedAt)) = .ok row.updatedAt

theorem Entity.columns_eq {kind : EntityKind} (row : Entity kind) :
    row.columns shown = row.id.getD .null :: row.name.getD .null :: row.description.getD .null ::
      ((traitRecord kind row.traits).map (fun column => column.2.getD .null) ++
        [shown row.createdAt, row.createdBy.getD .null, shown row.updatedAt, row.updatedBy.getD .null]) := by
  cases kind <;> rfl

theorem Entity.length_columns {kind : EntityKind} (row : Entity kind) :
    (row.columns shown).length = (entityTable kind).columnNames.length :=
  List.length_map _

namespace Entity.ComesBack

variable {kind : EntityKind} {row : Entity kind} (h : row.ComesBack shown)

include h

theorem value_required (column : ColumnDefinition) (hcolumn : column ∈ (entityTable kind).columns)
    (hnotNull : column.notNull = true) {given : Given} (hgiven : (row.record shown).value column.name = given) :
    some (given.getD .null) = given := by
  have hsome := (h.admitted column hcolumn).2 hnotNull
  rw [hgiven] at hsome
  cases given with
  | none => cases hsome
  | some => rfl

theorem value_optional (column : ColumnDefinition) (hcolumn : column ∈ (entityTable kind).columns)
    {given : Given} (hgiven : (row.record shown).value column.name = given) :
    Given.present (some (given.getD .null)) = given := by
  have hpresent := (h.admitted column hcolumn).1
  rw [hgiven] at hpresent
  cases given with
  | none => rfl
  | some => exact hpresent

theorem traitsAndAudit_append (hcopy : row.copy = row) (audit : Row) :
    traitsAndAudit kind ((traitRecord kind row.traits).map (fun column => column.2.getD .null) ++ audit) =
      (row.traits, audit) := by
  have hcopied : copiedTraits row.traits = row.traits := congrArg Entity.traits hcopy
  cases kind with
  | client =>
      have henabled : some (row.traits.enabled.getD .null) = row.traits.enabled :=
        h.value_required ((ColumnDefinition.required "enabled" .boolean).withDefault (.flag true)) (by decide) rfl rfl
      exact congrArg (fun enabled => (ClientTraits.mk enabled, audit)) henabled
  | group =>
      rw [← hcopied]
      rfl
  | secret =>
      have htype : Given.present (some (row.traits.contentType.getD .null)) = row.traits.contentType :=
        h.value_optional (.optional "type" .text) (by decide) rfl
      rw [← hcopied]
      exact congrArg (fun contentType => (SecretTraits.mk contentType _, audit)) htype

theorem entityOf_columns (hcopy : row.copy = row) (rest : Row) :
    entityOf kind (row.columns shown ++ rest) = .ok row := by
  have hid : some (row.id.getD .null) = row.id :=
    h.value_required (.primaryKey "id" .text) (by cases kind <;> decide) rfl rfl
  have hname : some (row.name.getD .null) = row.name :=
    h.value_required (ColumnDefinition.required "name" .text).asUnique (by cases kind <;> decide) rfl rfl
  have hdescription : Given.present (some (row.description.getD .null)) = row.description :=
    h.value_optional (.optional "description" .text) (by cases kind <;> decide) rfl
  have hcreatedBy : some (row.createdBy.getD .null) = row.createdBy :=
    h.value_required (.required "created_by" .text) (by cases kind <;> decide) rfl (by cases kind <;> rfl)
  have hupdatedBy : some (row.updatedBy.getD .null) = row.updatedBy :=
    h.value_required (.required "updated_by" .text) (by cases kind <;> decide) rfl (by cases kind <;> rfl)
  rw [row.columns_eq]
  simp only [entityOf, List.cons_append, List.append_assoc, List.drop_succ_cons, List.drop_zero,
    h.traitsAndAudit_append hcopy, List.getElem?_cons_zero, List.getElem?_cons_succ, h.created, h.updated]
  rw [hid, hname, hdescription, hcreatedBy, hupdatedBy]
  rfl

end Entity.ComesBack

theorem pathOf_pathColumns {path : SecretPath} (h : path.secret.ComesBack shown)
    (hcopy : path.secret.copy = path.secret) (hid : path.groupId.IsText) (hname : path.groupName.IsText) :
    pathOf (Store.pathColumns shown path) = .ok path := by
  obtain ⟨secret, id, name⟩ := path
  obtain ⟨id, rfl⟩ := hid
  obtain ⟨name, rfl⟩ := hname
  have hwidth : (secret.columns shown).length = (entityTable .secret).columnNames.length := secret.length_columns
  simp only [pathOf, Store.pathColumns, h.entityOf_columns hcopy, ← hwidth, List.getElem?_append_right, Nat.le_refl,
    Nat.sub_self, Nat.le_add_right, Nat.add_sub_cancel_left]
  rfl

theorem mapM_columns {α : Type} {decode : Row → Except Failure α} {columns : α → Row} {kept : List α}
    (hdecode : ∀ a ∈ kept, decode (columns a) = .ok a) : (kept.map columns).mapM decode = .ok kept := by
  have hread := mapM_eq_ok_map hdecode
  rw [List.map_id'] at hread
  rw [List.mapM_map]
  exact hread

theorem exists_mapM_eq_of_perm {α : Type} {decode : Row → Except Failure α} {columns : α → Row} {kept : List α}
    {rows : List Row} (hperm : rows.Perm (kept.map columns)) (hdecode : ∀ a ∈ kept, decode (columns a) = .ok a) :
    ∃ read, rows.mapM decode = .ok read ∧ read.Perm kept := by
  have hrows : Relation.Comp (· = List.map columns ·) List.Perm rows kept := by
    rw [List.eq_map_comp_perm]
    exact hperm
  obtain ⟨read, rfl, hread⟩ := hrows
  exact ⟨read, mapM_columns fun a ha => hdecode a (hread.mem_iff.1 ha), hread⟩

namespace Postgres

variable {c : Connection} {statement : Sql.Statement} {rows : List Row}

def Connection.asked (c : Connection) (statement : Sql.Statement) : Connection :=
  { c with sent := c.sent ++ [statement], responses := c.responses.tail }

theorem send_apply (h : c.responses.head? = some (.rows rows)) (statement : Sql.Statement) :
    send statement c = (.ok rows, c.asked statement) := by
  simp only [send, h]
  rfl

theorem send_bind {β : Type} (h : c.responses.head? = some (.rows rows)) (statement : Sql.Statement)
    (next : List Row → ConnectionM β) : (send statement >>= next) c = next rows (c.asked statement) := by
  change ExceptT.bindCont next (send statement c).1 (send statement c).2 = _
  rw [send_apply h]
  rfl

theorem exists_read {α : Type} {db : Database} {query : Sql.Select} (hunlimited : query.limit = none)
    {decode : Row → Except Failure α} {columns : α → Row} {kept : List α}
    (hfound : db.evaluate query = kept.map columns) (hdecode : ∀ a ∈ kept, decode (columns a) = .ok a)
    (hanswers : db.Answers (.select query) rows) (h : c.responses.head? = some (.rows rows)) :
    ∃ found, (send (.select query) >>= read decode) c = (.ok found, c.asked (.select query)) ∧ found.Perm kept := by
  cases hanswers with
  | select _ hperm =>
      rw [hfound] at hperm
      obtain ⟨found, hread, hsame⟩ := exists_mapM_eq_of_perm hperm hdecode
      refine ⟨found, ?_, hsame⟩
      rw [send_bind h, hunlimited]
      exact congrArg (·, c.asked (.select query)) hread

end Postgres

def Request.ReadsEdges : Request → Prop
  | .groupsOf _ id | .endpointsOf _ id | .clientsForSecret id => id.IsText
  | .secretPaths client name => client.IsText ∧ ∃ asked : Given, name = .ok asked ∧ (asked = none ∨ asked.IsText)
  | .linked _ endpoint group => endpoint.IsText ∧ group.IsText
  | .count _ => True
  | .create .. | .get .. | .getByName .. | .list _ | .delete .. | .link .. | .unlink .. => False

/-- A connection answers with these rows, whichever response to its one statement the database gives. -/
def Request.ReadFrom (db : Database) (request : Request) (kept : request.Answer) : Prop :=
  ∃ statement, (∃ rows, db.Answers statement rows) ∧
    ∀ (c : Connection) (rows : List Row), db.Answers statement rows → c.responses.head? = some (.rows rows) →
      ∃ found, Postgres.answer request c = (.ok found, c.asked statement) ∧ request.SameRows found kept

def Store.ComesBack (shown : Timestamp → Document) (s : Store) : Prop :=
  ∀ kind, ∀ row ∈ (s.entities kind).values, row.ComesBack shown

namespace Store

variable {s : Store} (h : s.WellFormed) (hback : s.ComesBack shown)

include h hback

theorem WellFormed.entityOf_columns {kind : EntityKind} {row : Entity kind} (hrow : row ∈ (s.entities kind).values) :
    entityOf kind (row.columns shown) = .ok row := by
  have hread := (hback kind row hrow).entityOf_columns (h.copy_eq hrow) []
  rwa [List.append_nil] at hread

theorem WellFormed.readFrom_groupsOf (edge : EdgeKind) {endpoint : Given} (hendpoint : endpoint.IsText) :
    Request.ReadFrom (s.database shown) (.groupsOf edge endpoint) (s.groupsOf edge endpoint) :=
  ⟨selectGroupsOf edge endpoint, ⟨_, .select rfl (.refl _)⟩, fun _ _ => exists_read rfl
    (h.evaluate_groupsOf hendpoint rfl) fun _ hgroup => h.entityOf_columns hback (h.mem_groupsOf.1 hgroup).1⟩

theorem WellFormed.readFrom_endpointsOf (edge : EdgeKind) {group : Given} (hgroup : group.IsText) :
    Request.ReadFrom (s.database shown) (.endpointsOf edge group) (s.endpointsOf edge group) :=
  ⟨selectEndpointsOf edge group, ⟨_, .select rfl (.refl _)⟩, fun _ _ => exists_read rfl
    (h.evaluate_endpointsOf hgroup rfl) fun _ hrow => h.entityOf_columns hback (h.mem_endpointsOf.1 hrow).1⟩

theorem WellFormed.readFrom_clientsForSecret {secret : Given} (hsecret : secret.IsText) :
    Request.ReadFrom (s.database shown) (.clientsForSecret secret) (s.clientsForSecret secret) :=
  ⟨selectClientsForSecret secret, ⟨_, .select rfl (.refl _)⟩, fun _ _ => exists_read rfl
    (h.evaluate_clientsForSecret hsecret rfl) fun _ hclient =>
      h.entityOf_columns hback (h.mem_clientsForSecret.1 hclient).1⟩

theorem WellFormed.readFrom_secretPaths {client asked : Given} (hclient : client.IsText)
    (hasked : asked = none ∨ asked.IsText) :
    Request.ReadFrom (s.database shown) (.secretPaths client (.ok asked))
      ((s.pathsFrom client).filter fun path => asked.isNone || path.secret.name.sameAs asked) := by
  refine ⟨selectSecretPaths client asked, ⟨_, .select rfl (.refl _)⟩, fun _ _ => exists_read rfl
    (h.evaluate_secretPaths hclient hasked rfl) fun path hpath => ?_⟩
  obtain ⟨group, hleads, hid, hname⟩ := h.mem_pathsFrom.1 (List.mem_of_mem_filter hpath)
  have htext := h.isText hleads.storedGroup
  exact pathOf_pathColumns (hback _ _ hleads.storedSecret) (h.copy_eq hleads.storedSecret) (hid ▸ htext.1)
    (hname ▸ htext.2)

omit hback

theorem WellFormed.readFrom_linked (edge : EdgeKind) {endpoint group : Given} (hendpoint : endpoint.IsText)
    (hgroup : group.IsText) :
    Request.ReadFrom (s.database shown) (.linked edge endpoint group) (s.linked edge endpoint group) := by
  refine ⟨selectEdge edge endpoint group, ⟨_, .select rfl (.refl _)⟩, fun c rows hanswers hrows => ?_⟩
  cases hanswers with
  | @select _ _ found hperm =>
      have hempty : (found.take 1).isEmpty = !s.linked edge endpoint group := by
        rw [← h.isEmpty_evaluate_edge hendpoint hgroup rfl, ← hperm.isEmpty_eq]
        cases found <;> rfl
      exact ⟨_, send_bind hrows _ _, (congrArg (!·) hempty).trans (Bool.not_not _)⟩

omit h

theorem readFrom_count (edge : EdgeKind) :
    Request.ReadFrom (s.database shown) (.count edge) (.ofNat (s.count edge)) := by
  refine ⟨.count edge.tableName, ⟨_, .number _⟩, fun c rows hanswers hrows => ?_⟩
  have hlength : ((s.database shown).records edge.tableName).length = s.count edge := by
    rw [records_edges, records_edgeRelation, List.length_map]
    exact List.length_map _
  refine ⟨_, Eq.trans (send_bind hrows _ _) ?_, rfl⟩
  cases hanswers with
  | number =>
      rw [hlength]
      rfl
  | digits =>
      rw [hlength, ← Binary64.ofText_toString]
      rfl

end Store

namespace Postgres

/-- Every read of the edges is answered over a connection with what it is answered with in memory. -/
theorem answer_sameRows {s : Store} (h : s.WellFormed) (hback : s.ComesBack shown) (now : Instant)
    {request : Request} (hreads : request.ReadsEdges) :
    ∃ kept, (s.answer now request).answer = .ok kept ∧ request.ReadFrom (s.database shown) kept := by
  cases request with
  | groupsOf edge endpoint => exact ⟨_, rfl, h.readFrom_groupsOf hback edge hreads⟩
  | endpointsOf edge group => exact ⟨_, rfl, h.readFrom_endpointsOf hback edge hreads⟩
  | clientsForSecret secret => exact ⟨_, rfl, h.readFrom_clientsForSecret hback hreads⟩
  | secretPaths client name =>
      obtain ⟨hclient, asked, rfl, hasked⟩ := hreads
      exact ⟨_, rfl, h.readFrom_secretPaths hback hclient hasked⟩
  | linked edge endpoint group => exact ⟨_, rfl, h.readFrom_linked edge hreads.1 hreads.2⟩
  | count edge => exact ⟨_, rfl, Store.readFrom_count edge⟩
  | create | get | getByName | list | delete | link | unlink => cases hreads

/-- A time as a database writes it: with a blank before the hour, and a numeric offset. -/
def spaced (stamp : Timestamp) : Document :=
  .text (String.ofList ((stamp.toList.map fun c => if c = 'T' then ' ' else c).dropLast ++ ['+', '0', '0']))

def reachedTwice : List Event :=
  let create (kind : EntityKind) (id name : String) : Event :=
    .step (.call .autocommit (.request (.create kind
      (some (.fields [("id", .text id), ("name", .text name), ("createdBy", .text "ops")])))))
  let link (edge : EdgeKind) (endpoint group : String) : Event :=
    .step (.call .autocommit (.request (.link edge endpoint group)))
  [create .group "g" "web", create .group "h" "jobs", create .client "c" "ci", create .secret "s" "db",
    link .membership "c" "g", link .membership "c" "h", link .grant "s" "g", link .grant "s" "h"]

theorem answer_sameRows_reachedTwice :
    let s := ((Queue.make 123 true).run reachedTwice).session.store
    let request := Request.secretPaths "c" (.ok (some "db"))
    s.WellFormed ∧ s.ComesBack spaced ∧ request.ReadsEdges ∧ (s.pathsFrom "c").length = 2 ∧
      ∃ kept, (s.answer 0 request).answer = .ok kept ∧ request.ReadFrom (s.database spaced) kept := by
  have hread : timestamp (some (spaced "1970-01-01T00:00:00.123Z")) = .ok "1970-01-01T00:00:00.123Z" := by rfl
  have hrows : ∀ kind, ∀ row ∈ (((Queue.make 123 true).run reachedTwice).session.store.entities kind).values,
      (entityTable kind).Admits (row.record spaced) ∧ row.createdAt = "1970-01-01T00:00:00.123Z" ∧
        row.updatedAt = "1970-01-01T00:00:00.123Z" := by
    intro kind
    cases kind <;> decide +kernel
  have hback : ((Queue.make 123 true).run reachedTwice).session.store.ComesBack spaced := by
    intro kind row hrow
    obtain ⟨hadmitted, hcreated, hupdated⟩ := hrows kind row hrow
    exact ⟨hadmitted, hcreated ▸ hread, hupdated ▸ hread⟩
  have hreads : (Request.secretPaths "c" (.ok (some "db"))).ReadsEdges := ⟨⟨_, rfl⟩, _, rfl, .inr ⟨_, rfl⟩⟩
  have hserial : (Queue.make 123 true).Serially reachedTwice := by decide
  have hsound := Queue.sound_run (Queue.make_sound 123 true) hserial
  exact ⟨hsound.rows, hback, hreads, by decide, answer_sameRows hsound.rows hback 0 hreads⟩

end Postgres

end SecretAccess
