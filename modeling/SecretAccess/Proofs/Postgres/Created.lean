import SecretAccess.Proofs.Document.Labels
import SecretAccess.Proofs.Instant.Written
import SecretAccess.Proofs.Postgres.Sent
import SecretAccess.Proofs.Schema.Enforced

namespace SecretAccess

open Schema Sql Postgres

namespace Given

def IsFlag (given : Given) : Prop := ∃ value : Bool, given = some (.flag value)

def IsLabels (given : Given) : Prop :=
  ∃ labels : List (String × String), (labels.map (·.1)).Nodup ∧ given = some (.labelled labels)

def SameFields (given other : Given) : Prop :=
  ∃ entries others, given = some (.fields entries) ∧ other = some (.fields others) ∧ entries.Perm others

end Given

def Traits.Askable : (kind : EntityKind) → Traits kind → Prop
  | .client, asked => asked.enabled = none ∨ asked.enabled.IsFlag
  | .group, asked => asked.metadata = none ∨ asked.metadata.IsLabels
  | .secret, asked => (asked.contentType = none ∨ asked.contentType.IsText) ∧
      (asked.metadata = none ∨ asked.metadata.IsLabels)

structure Given.Creates (kind : EntityKind) (input : Given) : Prop where
  id : (input.field? "id").IsText
  name : (input.field? "name").IsText
  description : input.field? "description" = none ∨ (input.field? "description").IsText
  traits : Traits.Askable kind (input.traits kind)
  createdBy : (input.field? "createdBy").IsText

def Traits.Whole : (kind : EntityKind) → Traits kind → Prop
  | .client, traits => traits.enabled.IsFlag
  | .group, traits => traits.metadata.IsLabels
  | .secret, traits => (traits.contentType = none ∨ traits.contentType.IsText) ∧ traits.metadata.IsLabels

def Traits.Same : (kind : EntityKind) → Traits kind → Traits kind → Prop
  | .client, traits, other => traits = other
  | .group, traits, other => traits.metadata.SameFields other.metadata
  | .secret, traits, other => traits.contentType = other.contentType ∧ traits.metadata.SameFields other.metadata

theorem Traits.Askable.whole {kind : EntityKind} {asked : Traits kind} (h : Askable kind asked) :
    Whole kind (settledTraits asked) := by
  have hlabels {metadata : Given} (h : metadata = none ∨ metadata.IsLabels) :
      (metadata.orElse (.fields [])).IsLabels := by
    rcases h with rfl | ⟨labels, hnames, rfl⟩
    · exact ⟨[], List.nodup_nil, rfl⟩
    · exact ⟨labels, hnames, rfl⟩
  cases kind with
  | client =>
      rcases h with h | ⟨value, h⟩
      · exact ⟨true, congrArg (Given.orElse · _) h⟩
      · exact ⟨value, congrArg (Given.orElse · _) h⟩
  | group => exact hlabels h
  | secret => exact ⟨h.1, hlabels h.2⟩

namespace Entity

variable {kind : EntityKind} {row : Entity kind}

structure Whole (row : Entity kind) : Prop where
  id : row.id.IsText
  name : row.name.IsText
  description : row.description = none ∨ row.description.IsText
  traits : Traits.Whole kind row.traits
  created : ∃ t : Instant, t.toText? = some row.createdAt
  createdBy : row.createdBy.IsText
  updated : ∃ t : Instant, t.toText? = some row.updatedAt
  updatedBy : row.updatedBy.IsText

structure Same (row other : Entity kind) : Prop where
  traits : Traits.Same kind row.traits other.traits
  rest : { row with traits := other.traits } = other

theorem Whole.copy_eq (h : row.Whole) : row.copy = row := by
  have hlabels {metadata : Given} (h : metadata.IsLabels) : some (.fields metadata.spread) = metadata := by
    obtain ⟨labels, -, rfl⟩ := h
    rfl
  have htraits : copiedTraits row.traits = row.traits := by
    cases kind with
    | client => rfl
    | group => exact congrArg GroupTraits.mk (hlabels h.traits)
    | secret => exact congrArg (SecretTraits.mk _) (hlabels h.traits.2)
  rw [copy, htraits]

def values (row : Entity kind) : Record :=
  [("id", row.id), ("name", row.name), ("description", row.description)] ++ traitValues kind row.traits ++
    [("created_at", some (.text row.createdAt)), ("created_by", row.createdBy),
      ("updated_at", some (.text row.updatedAt)), ("updated_by", row.updatedBy)]

theorem Whole.fill_values (h : row.Whole) (clock : Document) :
    (entityTable kind).fill clock row.values = row.values := by
  obtain ⟨id, name, description, traits, createdAt, createdBy, updatedAt, updatedBy⟩ := row
  obtain ⟨⟨_, rfl⟩, ⟨_, rfl⟩, hdescription, htraits, -, ⟨_, rfl⟩, -, ⟨_, rfl⟩⟩ := h
  cases kind with
  | client =>
      obtain ⟨enabled⟩ := traits
      obtain ⟨_, rfl⟩ := htraits
      rcases hdescription with rfl | ⟨_, rfl⟩ <;> rfl
  | group =>
      obtain ⟨metadata⟩ := traits
      obtain ⟨_, -, rfl⟩ := htraits
      rcases hdescription with rfl | ⟨_, rfl⟩ <;> rfl
  | secret =>
      obtain ⟨contentType, metadata⟩ := traits
      obtain ⟨htype, _, -, rfl⟩ := htraits
      rcases hdescription with rfl | ⟨_, rfl⟩ <;> rcases htype with rfl | ⟨_, rfl⟩ <;> rfl

end Entity

def Given.drafted (input : Given) (kind : EntityKind) (stamp : Timestamp) : Entity kind :=
  (input.draft kind).entity (input.field? "id") stamp

theorem Given.Creates.whole {kind : EntityKind} {input : Given} (h : input.Creates kind) {now : Instant}
    {stamp : Timestamp} (hstamp : now.toText? = some stamp) : (input.drafted kind stamp).Whole :=
  ⟨h.id, h.name, h.description, h.traits.whole, ⟨now, hstamp⟩, h.createdBy, ⟨now, hstamp⟩, h.createdBy⟩

/-- What a column shows of a value that was stored: the same text or flag, the same instant, the same fields. -/
inductive Schema.ColumnType.Shows : ColumnType → Given → Document → Prop
  | null {type : ColumnType} : Shows type none .null
  | text {value : String} : Shows .text (some (.text value)) (.text value)
  | boolean {value : Bool} : Shows .boolean (some (.flag value)) (.flag value)
  | instant {value shown : Document} {t : Instant} (stored : instantOf value = .ok (some t))
      (present : shown ≠ .null) (reads : instantOf shown = .ok (some t)) : Shows .instant (some value) shown
  | json {value shown : Document} {entries others : List (String × Document)}
      (stored : documentOf (some value) = some (.fields entries))
      (reads : documentOf (some shown) = some (.fields others)) (same : others.Perm entries) :
      Shows .json (some value) shown

namespace Schema.ColumnType.Shows

variable {given : Given} {shown : Document}

theorem text_eq (h : Shows .text given shown) (hgiven : given.IsText) : some shown = given := by
  obtain ⟨value, rfl⟩ := hgiven
  cases h
  rfl

theorem present_eq (h : Shows .text given shown) (hgiven : given = none ∨ given.IsText) :
    Given.present (some shown) = given := by
  rcases hgiven with rfl | ⟨value, rfl⟩
  · cases h
    rfl
  · cases h
    rfl

theorem flag_eq (h : Shows .boolean given shown) (hgiven : given.IsFlag) : some shown = given := by
  obtain ⟨value, rfl⟩ := hgiven
  cases h
  rfl

theorem instantOf_text {now : Instant} {stamp : Timestamp} (h : now.toText? = some stamp) :
    instantOf (.text stamp) = .ok (some now) :=
  congrArg Except.ok (Instant.ofText?_of_toText? h)

theorem timestamp_eq {stamp : Timestamp} (h : Shows .instant (some (.text stamp)) shown)
    (hstamp : ∃ now : Instant, now.toText? = some stamp) : timestamp (some shown) = .ok stamp := by
  obtain ⟨now, hnow⟩ := hstamp
  cases h with
  | instant stored present reads =>
      rw [instantOf_text hnow] at stored
      cases stored
      cases shown with
      | null => exact absurd rfl present
      | flag | number | text | list | fields =>
          have htext : (some now).bind Instant.toText? = some stamp := hnow
          simp only [timestamp, reads, bind, Except.bind, htext]
          rfl

theorem sameFields (h : Shows .json (documentText given) shown) (hgiven : given.IsLabels) :
    (documentOf (some shown)).SameFields given := by
  obtain ⟨labels, hnames, rfl⟩ := hgiven
  obtain ⟨written, hwritten, hread⟩ := Document.ofText?_render hnames
  cases h with
  | json stored reads same =>
      rw [documentOf, hread] at stored
      cases stored
      exact ⟨_, _, reads, rfl, same.trans (hwritten.map _)⟩

theorem labels {labels others : List (String × String)} (h : (labels.map (·.1)).Nodup) (hsame : others.Perm labels) :
    Shows .json (documentText (some (.labelled labels))) (.labelled others) := by
  obtain ⟨written, hwritten, hread⟩ := Document.ofText?_render h
  have hstored : documentOf (documentText (some (.labelled labels))) = some (.labelled written) := by
    change some ((Document.ofText? _).getD _) = _
    rw [hread, Option.getD_some]
  exact .json hstored rfl ((hsame.trans hwritten.symm).map _)

end Schema.ColumnType.Shows

/-- A row that shows the values of a record, column by column. -/
def Schema.TableDefinition.Shows (table : TableDefinition) (record : Record) (row : Row) : Prop :=
  List.Forall₂ (fun column shown => column.type.Shows (record.value column.name) shown) table.columns row

/-- A row with which an insertion is answered: it is made of the values of the statement, and where it has none of the
defaults of the table. -/
def Sql.Statement.Echoed (statement : Statement) (kind : EntityKind) (clock : Timestamp) (row : Row) : Prop :=
  ∃ values : Record,
    statement = .insert (entityTable kind).name values [] (entityTable kind).columnNames ∧
      (entityTable kind).Shows ((entityTable kind).fill (.text clock) values) row

theorem exists_of_forall₂_append {α β : Type} {R : α → β → Prop} {as others : List α} {bs : List β}
    (h : List.Forall₂ R (as ++ others) bs) :
    ∃ front back, bs = front ++ back ∧ List.Forall₂ R as front ∧ List.Forall₂ R others back := by
  induction as generalizing bs with
  | nil => exact ⟨[], bs, rfl, .nil, h⟩
  | cons a as ih =>
      cases h with
      | cons hfirst hrest =>
          obtain ⟨front, back, rfl, hfront, hback⟩ := ih hrest
          exact ⟨_ :: front, back, rfl, .cons hfirst hfront, hback⟩

theorem exists_forall₂ {α β : Type} {R : α → β → Prop} {as : List α} (h : ∀ a ∈ as, ∃ b, R a b) :
    ∃ bs, List.Forall₂ R as bs := by
  induction as with
  | nil => exact ⟨[], .nil⟩
  | cons a as ih =>
      obtain ⟨b, hb⟩ := h a List.mem_cons_self
      obtain ⟨bs, hbs⟩ := ih fun other hother => h other (List.mem_cons_of_mem a hother)
      exact ⟨b :: bs, .cons hb hbs⟩

namespace Entity.Whole

variable {kind : EntityKind} {row : Entity kind} (h : row.Whole)

include h

theorem exists_traits {columns : Row} (hshows : List.Forall₂
      (fun column shown => column.type.Shows (row.values.value column.name) shown) (traitColumns kind) columns) :
    ∃ traits, Traits.Same kind traits row.traits ∧
      ∀ audit, traitsAndAudit kind (columns ++ audit) = (traits, audit) := by
  have htraits := h.traits
  cases kind with
  | client =>
      rcases hshows with _ | ⟨henabled, _ | _⟩
      have hread := ColumnType.Shows.flag_eq henabled htraits
      exact ⟨row.traits, rfl, fun audit => congrArg (fun enabled => (ClientTraits.mk enabled, audit)) hread⟩
  | group =>
      rcases hshows with _ | ⟨hmetadata, _ | _⟩
      exact ⟨_, ColumnType.Shows.sameFields hmetadata htraits, fun _ => rfl⟩
  | secret =>
      rcases hshows with _ | ⟨htype, _ | ⟨hmetadata, _ | _⟩⟩
      have hread := ColumnType.Shows.present_eq htype htraits.1
      exact ⟨⟨_, _⟩, ⟨hread, ColumnType.Shows.sameFields hmetadata htraits.2⟩, fun _ => rfl⟩

theorem exists_ids {columns : Row} (hshows : List.Forall₂
      (fun column shown => column.type.Shows (row.values.value column.name) shown) idColumns columns) :
    ∃ id name description, columns = [id, name, description] ∧ some id = row.id ∧ some name = row.name ∧
      Given.present (some description) = row.description := by
  rcases hshows with _ | ⟨hid, _ | ⟨hname, _ | ⟨hdescription, _ | _⟩⟩⟩
  exact ⟨_, _, _, rfl, ColumnType.Shows.text_eq hid h.id, ColumnType.Shows.text_eq hname h.name,
    ColumnType.Shows.present_eq hdescription h.description⟩

theorem exists_audit {columns : Row} (hshows : List.Forall₂
      (fun column shown => column.type.Shows (row.values.value column.name) shown) auditColumns columns) :
    ∃ created createdBy updated updatedBy, columns = [created, createdBy, updated, updatedBy] ∧
      timestamp (some created) = .ok row.createdAt ∧ some createdBy = row.createdBy ∧
      timestamp (some updated) = .ok row.updatedAt ∧ some updatedBy = row.updatedBy := by
  rcases hshows with _ | ⟨hcreated, _ | ⟨hcreatedBy, _ | ⟨hupdated, _ | ⟨hupdatedBy, _ | _⟩⟩⟩⟩
  refine ⟨_, _, _, _, rfl, ?_, ?_, ?_, ?_⟩
  · cases kind <;> exact ColumnType.Shows.timestamp_eq hcreated h.created
  · cases kind <;> exact ColumnType.Shows.text_eq hcreatedBy h.createdBy
  · cases kind <;> exact ColumnType.Shows.timestamp_eq hupdated h.updated
  · cases kind <;> exact ColumnType.Shows.text_eq hupdatedBy h.updatedBy

theorem exists_entityOf {shown : Row} (hshows : (entityTable kind).Shows row.values shown) :
    ∃ read, entityOf kind shown = .ok read ∧ read.Same row := by
  obtain ⟨front, audit, rfl, hfront, haudit⟩ := exists_of_forall₂_append hshows
  obtain ⟨ids, columns, rfl, hids, hcolumns⟩ := exists_of_forall₂_append hfront
  obtain ⟨id, name, description, rfl, hid, hname, hdescription⟩ := h.exists_ids hids
  obtain ⟨traits, hsame, htraits⟩ := h.exists_traits hcolumns
  obtain ⟨created, createdBy, updated, updatedBy, rfl, hcreated, hcreatedBy, hupdated, hupdatedBy⟩ :=
    h.exists_audit haudit
  refine ⟨{ row with traits := traits }, ?_, hsame, rfl⟩
  simp only [entityOf, List.cons_append, List.nil_append, List.drop_succ_cons, List.drop_zero, htraits,
    List.getElem?_cons_zero, List.getElem?_cons_succ, hcreated, hupdated]
  rw [hid, hname, hdescription, hcreatedBy, hupdatedBy]
  rfl

theorem exists_shows : ∃ shown, (entityTable kind).Shows row.values shown := by
  have htext {given : Given} (h : given.IsText) : ∃ shown, ColumnType.Shows .text given shown := by
    obtain ⟨_, rfl⟩ := h
    exact ⟨_, .text⟩
  have hoptional {given : Given} (h : given = none ∨ given.IsText) : ∃ shown, ColumnType.Shows .text given shown := by
    rcases h with rfl | h
    · exact ⟨_, .null⟩
    · exact htext h
  have hlabels {given : Given} (h : given.IsLabels) : ∃ shown, ColumnType.Shows .json (documentText given) shown := by
    obtain ⟨labels, hnames, rfl⟩ := h
    exact ⟨_, .labels hnames (.refl _)⟩
  have hinstant {stamp : Timestamp} (h : ∃ now : Instant, now.toText? = some stamp) :
      ∃ shown, ColumnType.Shows .instant (some (.text stamp)) shown := by
    obtain ⟨_, hnow⟩ := h
    have hread := ColumnType.Shows.instantOf_text hnow
    exact ⟨.text stamp, .instant hread (by rintro ⟨⟩) hread⟩
  have hids : ∀ column ∈ idColumns, ∃ shown, column.type.Shows (row.values.value column.name) shown :=
    List.forall_mem_cons.2 ⟨htext h.id, List.forall_mem_cons.2 ⟨htext h.name,
      List.forall_mem_singleton.2 (hoptional h.description)⟩⟩
  have htraits : ∀ column ∈ traitColumns kind, ∃ shown, column.type.Shows (row.values.value column.name) shown := by
    have htraits := h.traits
    cases kind with
    | client =>
        obtain ⟨value, hvalue⟩ := htraits
        have henabled : ∃ shown, ColumnType.Shows .boolean row.traits.enabled shown := by
          rw [hvalue]
          exact ⟨_, .boolean⟩
        exact List.forall_mem_singleton.2 henabled
    | group => exact List.forall_mem_singleton.2 (hlabels htraits)
    | secret => exact List.forall_mem_cons.2 ⟨hoptional htraits.1, List.forall_mem_singleton.2 (hlabels htraits.2)⟩
  have haudit : ∀ column ∈ auditColumns, ∃ shown, column.type.Shows (row.values.value column.name) shown := by
    cases kind <;>
      exact List.forall_mem_cons.2 ⟨hinstant h.created, List.forall_mem_cons.2 ⟨htext h.createdBy,
        List.forall_mem_cons.2 ⟨hinstant h.updated, List.forall_mem_singleton.2 (htext h.updatedBy)⟩⟩⟩
  exact exists_forall₂ (List.forall_mem_append.2 ⟨List.forall_mem_append.2 ⟨hids, htraits⟩, haudit⟩)

end Entity.Whole

namespace Postgres

variable {kind : EntityKind} {input : Given} {stamp : Timestamp}

theorem create_eq (h : input.Creates kind) {c : Connection} (hstamp : c.clock.toText? = some stamp) :
    create kind input c = (send (insertEntity (input.drafted kind stamp)) >>= fun rows =>
      readFirst (entityOf kind) rows >>= fun row => row.elim (throw (.unreadable "undefined" "id")) pure) c := by
  obtain ⟨id, hid⟩ := h.id
  have hdraw : drawId (input.draft kind).id = pure (input.field? "id") := by
    change drawId (input.field? "id") = _
    rw [hid]
    rfl
  have hnow : Postgres.stamp c = (.ok stamp, c) := by
    have hget : (get : ConnectionM Connection) c = (.ok c, c) := rfl
    rw [Postgres.stamp, bind_apply, hget]
    dsimp only
    rw [hstamp]
    rfl
  rw [create, Given.part_eq_ok h.id.isSome, bind_apply, ofExcept_apply]
  dsimp only
  rw [hdraw, pure_bind, bind_apply, hnow]
  refine congrFun (congrArg (send (insertEntity (input.drafted kind stamp)) >>= ·) (funext fun rows => ?_)) c
  refine congrArg (readFirst (entityOf kind) rows >>= ·) (funext fun row => ?_)
  cases row <;> rfl

theorem readFirst_apply {α : Type} (decode : Row → Except Failure α) (rows : List Row) (c : Connection) :
    readFirst decode rows c = (rows.head?.mapM decode, c) := rfl

theorem readFirst_of_ok {row : Row} {entity : Entity kind} (h : entityOf kind row = .ok entity) (c : Connection) :
    readFirst (entityOf kind) [row] c = (.ok (some entity), c) := by
  rw [readFirst_apply, List.head?_cons, Option.mapM_some, h]
  rfl

theorem create_asks (h : input.Creates kind) {c : Connection} (hstamp : c.clock.toText? = some stamp) :
    (create kind input c).2 = c.asked (insertEntity (input.drafted kind stamp)) := by
  rw [create_eq h hstamp, bind_apply, send_eq]
  cases answered c.responses.head? with
  | error => rfl
  | ok rows =>
      dsimp only
      rw [bind_apply, readFirst_apply]
      rcases rows.head?.mapM (entityOf kind) with _ | _ | _ <;> rfl

/-- Wherever a row is handed over, an entity is read from it. -/
structure ReadAs (kind : EntityKind) (input : Given) (now : Instant) (row : Row) (entity : Entity kind) : Prop where
  created (c : Connection) (clock : c.clock = now) (response : c.responses.head? = some (.rows [row])) :
    (answer (.create kind input) c).1 = .ok entity
  found (c : Connection) (id : Given) (response : c.responses.head? = some (.rows [row])) :
    (answer (.get kind id) c).1 = .ok (some entity)
  foundByName (c : Connection) (name : Given) (response : c.responses.head? = some (.rows [row])) :
    (answer (.getByName kind name) c).1 = .ok (some entity)
  listed (c : Connection) {before after : List Row} {front back : List (Entity kind)}
    (readsBefore : before.mapM (entityOf kind) = .ok front) (readsAfter : after.mapM (entityOf kind) = .ok back)
    (response : c.responses.head? = some (.rows (before ++ row :: after))) :
    (answer (.list kind) c).1 = .ok (front ++ entity :: back)

theorem readAs (h : input.Creates kind) {now : Instant} (hstamp : now.toText? = some stamp) {row : Row}
    {entity : Entity kind} (hread : entityOf kind row = .ok entity) : ReadAs kind input now row entity where
  created c hclock hresponse := by
    subst hclock
    change (create kind input c).1 = _
    rw [create_eq h hstamp, send_bind hresponse, bind_apply, readFirst_of_ok hread]
    rfl
  found c id hresponse := by
    change ((send _ >>= readFirst (entityOf kind)) c).1 = _
    rw [send_bind hresponse, readFirst_of_ok hread]
  foundByName c name hresponse := by
    change ((send _ >>= readFirst (entityOf kind)) c).1 = _
    rw [send_bind hresponse, readFirst_of_ok hread]
  listed c before after front back hbefore hafter hresponse := by
    change ((send _ >>= read (entityOf kind)) c).1 = _
    rw [send_bind hresponse]
    change List.mapM (entityOf kind) (before ++ row :: after) = _
    rw [List.mapM_append, hbefore, List.mapM_cons, hread, hafter]
    rfl

theorem answer_create (h : input.Creates kind) (s : Store) (now : Instant) :
    (s.answer now (.create kind input)).answer = (s.create now (input.draft kind)).answer := by
  rw [Store.answer, Store.createAsked, Given.part_eq_ok h.id.isSome]

theorem drawId_of_creates (h : input.Creates kind) (s : Store) :
    s.drawId kind (input.draft kind).id = (input.field? "id", s) := by
  obtain ⟨id, hid⟩ := h.id
  change s.drawId kind (input.field? "id") = _
  rw [hid]
  rfl

theorem created_eq (h : input.Creates kind) {now : Instant} (hstamp : now.toText? = some stamp) {s : Store}
    {created : Entity kind} (hcreated : (s.answer now (.create kind input)).answer = .ok created) :
    created = input.drafted kind stamp := by
  rw [answer_create h] at hcreated
  rcases s.create_cases now (input.draft kind) with ⟨_, hfailed⟩ | ⟨id, drawn, other, hdraw, -, hother, hdone⟩
  · rw [hfailed] at hcreated
    cases hcreated
  · rw [hdone] at hcreated
    rw [drawId_of_creates h] at hdraw
    cases hdraw
    cases hstamp.symm.trans hother
    cases hcreated
    exact (h.whole hstamp).copy_eq

theorem empty_answer_create (h : input.Creates kind) {now : Instant} (hstamp : now.toText? = some stamp) :
    (Store.empty.answer now (.create kind input)).answer = .ok (input.drafted kind stamp) := by
  have hrefusal : Store.empty.createRefusal kind (input.field? "id") (input.draft kind).name = none := by
    cases kind <;> rfl
  rw [answer_create h, Store.create, drawId_of_creates h]
  simp only [hrefusal, hstamp]
  exact congrArg Except.ok (h.whole hstamp).copy_eq

theorem echoed_iff (h : input.Creates kind) {now : Instant} (hstamp : now.toText? = some stamp) {clock : Timestamp}
    {row : Row} : (insertEntity (input.drafted kind stamp)).Echoed kind clock row ↔
      (entityTable kind).Shows (input.drafted kind stamp).values row := by
  have hfill := (h.whole hstamp).fill_values (.text clock)
  constructor
  · rintro ⟨values, hinsert, hshows⟩
    cases hinsert
    rw [Entity.values] at hfill
    rwa [hfill] at hshows
  · intro hshows
    exact ⟨(input.drafted kind stamp).values, rfl, by rwa [hfill]⟩

/-- For an input with an id, every store in memory that takes it answers with the same entity, and some store takes it.
Over a connection the input becomes one insertion. A row that shows the values of this insertion is read as that entity,
in answer to the insertion as in answer to any lookup or listing, and there is such a row. -/
theorem created_alike (h : input.Creates kind) {now : Instant} (hnow : now.inRange = true) :
    ∃ stamp, now.toText? = some stamp ∧
      (∀ (s : Store) (created : Entity kind), (s.answer now (.create kind input)).answer = .ok created →
        created = input.drafted kind stamp) ∧
      (∃ s : Store, (s.answer now (.create kind input)).answer = .ok (input.drafted kind stamp)) ∧
      (∀ c : Connection, c.clock = now →
        (answer (.create kind input) c).2 = c.asked (insertEntity (input.drafted kind stamp))) ∧
      ∀ clock : Timestamp, (∃ row, (insertEntity (input.drafted kind stamp)).Echoed kind clock row) ∧
        ∀ row, (insertEntity (input.drafted kind stamp)).Echoed kind clock row →
          ∃ entity : Entity kind, entity.Same (input.drafted kind stamp) ∧ ReadAs kind input now row entity := by
  obtain ⟨stamp, hstamp⟩ := Instant.exists_stamp hnow
  have hwhole := h.whole hstamp
  refine ⟨stamp, hstamp, fun _ _ => created_eq h hstamp, ⟨_, empty_answer_create h hstamp⟩,
    fun c hclock => create_asks h (hclock ▸ hstamp), fun clock => ⟨?_, fun row hechoed => ?_⟩⟩
  · obtain ⟨row, hshows⟩ := hwhole.exists_shows
    exact ⟨row, (echoed_iff h hstamp).2 hshows⟩
  · obtain ⟨entity, hread, hsame⟩ := hwhole.exists_entityOf ((echoed_iff h hstamp).1 hechoed)
    exact ⟨entity, hsame, readAs h hstamp hread⟩

def newSecret : Given :=
  some (.fields [("id", .text ""), ("name", .text "db"), ("description", .text ""),
    ("metadata", .labelled [("tier", ""), ("2", "b"), ("1", "\"a\"")]), ("createdBy", .text "ops")])

/-- The row of this secret, its metadata in an order of the database and its times in another form. -/
def newSecretRow : Row :=
  [.text "", .text "db", .text "", .null, .labelled [("tier", ""), ("1", "\"a\""), ("2", "b")],
    spaced "1970-01-01T00:00:00.123Z", .text "ops", .number (.ofNat 123), .text "ops"]

theorem created_alike_newSecret :
    newSecret.Creates .secret ∧ Instant.inRange 123 = true ∧
      (insertEntity (newSecret.drafted .secret "1970-01-01T00:00:00.123Z")).Echoed .secret "" newSecretRow ∧
      ∃ entity : Secret, entity.Same (newSecret.drafted .secret "1970-01-01T00:00:00.123Z") ∧
        ReadAs .secret newSecret 123 newSecretRow entity := by
  have hcreates : newSecret.Creates .secret :=
    ⟨⟨_, rfl⟩, ⟨_, rfl⟩, .inr ⟨_, rfl⟩, ⟨.inl rfl, .inr ⟨_, by decide, rfl⟩⟩, ⟨_, rfl⟩⟩
  have hstamp : Instant.toText? 123 = some "1970-01-01T00:00:00.123Z" := by rfl
  have hspaced : ColumnType.Shows .instant (some (.text "1970-01-01T00:00:00.123Z"))
      (spaced "1970-01-01T00:00:00.123Z") := .instant (ColumnType.Shows.instantOf_text hstamp) (by decide) (by rfl)
  have hnumber : ColumnType.Shows .instant (some (.text "1970-01-01T00:00:00.123Z")) (.number (.ofNat 123)) :=
    .instant (ColumnType.Shows.instantOf_text hstamp) (by decide) (by rfl)
  have hshows : (entityTable .secret).Shows (newSecret.drafted .secret "1970-01-01T00:00:00.123Z").values newSecretRow :=
    .cons .text <| .cons .text <| .cons .text <| .cons .null <| .cons (.labels (by decide) (by decide)) <|
      .cons hspaced <| .cons .text <| .cons hnumber <| .cons .text .nil
  have hechoed : (insertEntity (newSecret.drafted .secret "1970-01-01T00:00:00.123Z")).Echoed .secret "" newSecretRow :=
    (echoed_iff hcreates hstamp).2 hshows
  obtain ⟨stamp, hother, -, -, -, hread⟩ := created_alike hcreates (by decide : Instant.inRange 123 = true)
  cases hstamp.symm.trans hother
  exact ⟨hcreates, by decide, hechoed, (hread "").2 newSecretRow hechoed⟩

end Postgres

end SecretAccess
