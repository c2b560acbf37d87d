import SecretAccess.Proofs.Store.Journal
import SecretAccess.Store.Answer

namespace SecretAccess

inductive TableKind where
  | entities (kind : EntityKind)
  | edges (kind : EdgeKind)
  deriving DecidableEq

namespace TableKind

abbrev Key : TableKind → Type
  | entities _ => Identity
  | edges _ => String

abbrev Row : TableKind → Type
  | entities kind => Entity kind
  | edges _ => Edge

instance : (t : TableKind) → DecidableEq t.Key
  | entities _ => inferInstanceAs (DecidableEq Identity)
  | edges _ => inferInstanceAs (DecidableEq String)

instance : (t : TableKind) → DecidableEq t.Row
  | entities kind => inferInstanceAs (DecidableEq (Entity kind))
  | edges _ => inferInstanceAs (DecidableEq Edge)

end TableKind

def Store.table (s : Store) : (t : TableKind) → Table t.Key t.Row
  | .entities kind => s.entities kind
  | .edges kind => s.edges kind

/-- The key that is written when a write to a table is taken back, and what stood under it before. -/
def Undo.entry? : (t : TableKind) → Undo → Option (t.Key × Option t.Row)
  | .entities kind, .entity k key before => if h : k = kind then some (key, h ▸ before) else none
  | .edges kind, .edge k key before => if k = kind then some (key, before) else none
  | .entities _, .edge .. | .edges _, .entity .. => none

def journalOf (t : TableKind) (journal : List Undo) : List (t.Key × Option t.Row) :=
  journal.filterMap (Undo.entry? t)

theorem journalOf_append (t : TableKind) (first second : List Undo) :
    journalOf t (first ++ second) = journalOf t first ++ journalOf t second :=
  List.filterMap_append

theorem journalOf_cons (t : TableKind) (undo : Undo) (journal : List Undo) :
    journalOf t (undo :: journal) = journalOf t [undo] ++ journalOf t journal :=
  journalOf_append t [undo] journal

namespace Store

theorem withEntities_self (s : Store) (kind : EntityKind) : s.withEntities kind (s.entities kind) = s := by
  cases kind <;> rfl

theorem withEdges_self (s : Store) (kind : EdgeKind) : s.withEdges kind (s.edges kind) = s := by
  cases kind <;> rfl

theorem entities_withEntities_of_ne (s : Store) {kind other : EntityKind} (h : kind ≠ other)
    (rows : Table Identity (Entity kind)) : (s.withEntities kind rows).entities other = s.entities other := by
  cases kind <;> cases other <;> first | rfl | exact absurd rfl h

theorem edges_withEdges_of_ne (s : Store) {kind other : EdgeKind} (h : kind ≠ other)
    (rows : Table String Edge) : (s.withEdges kind rows).edges other = s.edges other := by
  cases kind <;> cases other <;> first | rfl | exact absurd rfl h

theorem table_apply_entry {s : Store} {undo : Undo} {t : TableKind} {key : t.Key} {before : Option t.Row}
    (h : undo.entry? t = some (key, before)) :
    (undo.apply s).table t = Undo.restored (s.table t) key before := by
  cases t with
  | entities kind =>
      cases undo with
      | entity k key' before' =>
          by_cases hk : k = kind
          · subst hk
            simp only [Undo.entry?, dif_pos, Option.some.injEq, Prod.mk.injEq] at h
            obtain ⟨rfl, rfl⟩ := h
            exact entities_withEntities _ _ _
          · simp [Undo.entry?, hk] at h
      | edge => cases h
  | edges kind =>
      cases undo with
      | entity => cases h
      | edge k key' before' =>
          by_cases hk : k = kind
          · subst hk
            simp only [Undo.entry?, if_pos, Option.some.injEq, Prod.mk.injEq] at h
            obtain ⟨rfl, rfl⟩ := h
            exact edges_withEdges _ _ _
          · simp [Undo.entry?, hk] at h

theorem table_apply_none {s : Store} {undo : Undo} {t : TableKind} (h : undo.entry? t = none) :
    (undo.apply s).table t = s.table t := by
  cases t with
  | entities kind =>
      cases undo with
      | entity k key before =>
          have hk : k ≠ kind := fun hk => by subst hk; simp [Undo.entry?] at h
          exact entities_withEntities_of_ne s hk _
      | edge => exact entities_withEdges _ _ _ _
  | edges kind =>
      cases undo with
      | entity => exact edges_withEntities _ _ _ _
      | edge k key before =>
          have hk : k ≠ kind := fun hk => by subst hk; simp [Undo.entry?] at h
          exact edges_withEdges_of_ne s hk _

theorem table_rollBack (s : Store) (journal : List Undo) (t : TableKind) :
    (s.rollBack journal).table t = (s.table t).rollBack (journalOf t journal) := by
  rw [rollBack, List.foldl_reverse]
  induction journal with
  | nil => rfl
  | cons undo journal ih =>
      rw [List.foldr_cons]
      cases h : undo.entry? t with
      | none =>
          rw [table_apply_none h, ih, journalOf, journalOf, List.filterMap_cons_none h]
      | some entry =>
          rw [table_apply_entry h, ih, journalOf, journalOf, List.filterMap_cons_some h]
          rfl

def refers (edge : EdgeKind) (kind : EntityKind) (id : Given) (row : Edge) : Bool :=
  (kind = edge.endpoint && row.endpoint = id) || (kind = .group && row.group = id)

theorem entities_cascade (s : Store) (id : Given) (kind other : EntityKind) :
    (s.cascade id kind).1.entities other = s.entities other := by
  cases kind <;> simp [cascade, removeEdges]

theorem edges_cascade (s : Store) (id : Given) (kind : EntityKind) (edge : EdgeKind) :
    (s.cascade id kind).1.edges edge = (s.edges edge).keep fun row => !refers edge kind id row.2 := by
  cases kind <;> cases edge <;>
    simp [cascade, removeEdges, refers, edges_withEdges_of_ne, Table.keep_true]

theorem journalOf_entities_cascade (s : Store) (id : Given) (kind other : EntityKind) :
    journalOf (.entities other) (s.cascade id kind).2 = [] := by
  cases kind <;> simp [cascade, removeEdges, journalOf, Undo.entry?, List.filterMap_map, Function.comp_def]

theorem journalOf_edges_cascade (s : Store) (id : Given) (kind : EntityKind) (edge : EdgeKind) :
    journalOf (.edges edge) (s.cascade id kind).2 =
      ((s.edges edge).rows.filter fun row => refers edge kind id row.2).map fun row => (row.1, some row.2) := by
  cases kind <;> cases edge <;>
    simp [cascade, removeEdges, refers, journalOf, Undo.entry?, edges_withEdges_of_ne, List.filterMap_map,
      Function.comp_def, List.filter_false]

theorem createRefusal_eq_none_iff {s : Store} {kind : EntityKind} {id name : Given} :
    s.createRefusal kind id name = none ↔ s.get? kind id = none ∧
      ∀ row ∈ (s.entities kind).values, row.name.sameAs name = false := by
  have hfree : s.contains kind id = false ↔ s.get? kind id = none := Option.isSome_eq_false_iff.trans Option.isNone_iff_eq_none
  unfold createRefusal
  cases hc : s.contains kind id with
  | true => simp [← hfree, hc]
  | false => simp [hfree.1 hc]

theorem linkRefusal_eq_none_iff {s : Store} {edge : EdgeKind} {endpoint group : Given} :
    s.linkRefusal edge endpoint group = none ↔
      s.contains edge.endpoint endpoint = true ∧ s.contains .group group = true := by
  unfold linkRefusal
  cases s.contains edge.endpoint endpoint <;> cases s.contains .group group <;> simp

theorem create_cases (s : Store) (now : Instant) {kind : EntityKind} (draft : Draft kind) :
    (∃ failure, s.create now draft = .unchanged (s.drawId kind draft.id).2 (.error failure)) ∨
      ∃ id drawn stamp, s.drawId kind draft.id = (id, drawn) ∧
        drawn.createRefusal kind id draft.name = none ∧ now.toText? = some stamp ∧
        s.create now draft = ⟨.ok (draft.entity id stamp).copy,
          (drawn.withPlaceFor id).withEntities kind
            ((drawn.entities kind).put (drawn.key id) (draft.entity id stamp).copy),
          [.entity kind (drawn.key id) ((drawn.entities kind).get? (drawn.key id))]⟩ := by
  cases hdraw : s.drawId kind draft.id with
  | mk id drawn =>
      cases hrefusal : drawn.createRefusal kind id draft.name with
      | some failure => exact .inl ⟨failure, by simp only [create, hdraw, hrefusal]⟩
      | none =>
          cases hstamp : now.toText? with
          | none => exact .inl ⟨.invalidInstant, by simp only [create, hdraw, hrefusal, hstamp]⟩
          | some stamp =>
              exact .inr ⟨id, drawn, stamp, rfl, hrefusal, rfl, by simp only [create, hdraw, hrefusal, hstamp]⟩

theorem delete_cases (s : Store) (kind : EntityKind) (id : Given) :
    (s.get? kind id = none ∧ s.delete kind id = .unchanged s (.ok false)) ∨
      ∃ row, s.get? kind id = some row ∧
        s.delete kind id = ⟨.ok true,
          ((s.withEntities kind ((s.entities kind).erase (s.key id))).cascade id kind).1,
          .entity kind (s.key id) (some row) ::
            ((s.withEntities kind ((s.entities kind).erase (s.key id))).cascade id kind).2⟩ := by
  cases hrow : s.get? kind id with
  | none =>
      rw [get?] at hrow
      exact .inl ⟨rfl, by simp only [delete, hrow]⟩
  | some row =>
      rw [get?] at hrow
      exact .inr ⟨row, rfl, by simp only [delete, hrow]⟩

theorem link_cases (s : Store) (now : Instant) (edge : EdgeKind) (endpoint group : Given) :
    (∃ answer, s.link now edge endpoint group = .unchanged s answer) ∨
      ∃ stamp, s.linkRefusal edge endpoint group = none ∧
        (s.edges edge).get? (pairKey endpoint group) = none ∧ now.toText? = some stamp ∧
        s.link now edge endpoint group = ⟨.ok (),
          s.withEdges edge ((s.edges edge).put (pairKey endpoint group) ⟨endpoint, group, stamp⟩),
          [.edge edge (pairKey endpoint group) none]⟩ := by
  unfold link
  split
  · exact .inl ⟨_, rfl⟩
  · rename_i hrefusal
    by_cases hc : (s.edges edge).contains (pairKey endpoint group) = true
    · exact .inl ⟨.ok (), by simp only [hc, if_true]⟩
    · have hfree : (s.edges edge).get? (pairKey endpoint group) = none := Option.not_isSome_iff_eq_none.1 hc
      cases hstamp : now.toText? with
      | none => exact .inl ⟨.error .invalidInstant, by simp only [hc, Bool.false_eq_true, if_false]⟩
      | some stamp =>
          exact .inr ⟨stamp, hrefusal, hfree, rfl, by simp only [hc, Bool.false_eq_true, if_false, hfree]⟩

theorem unlink_cases (s : Store) (edge : EdgeKind) (endpoint group : Given) :
    ((s.edges edge).get? (pairKey endpoint group) = none ∧
        s.unlink edge endpoint group = .unchanged s (.ok ())) ∨
      ∃ row, (s.edges edge).get? (pairKey endpoint group) = some row ∧
        s.unlink edge endpoint group = ⟨.ok (),
          s.withEdges edge ((s.edges edge).erase (pairKey endpoint group)),
          [.edge edge (pairKey endpoint group) (some row)]⟩ := by
  cases hrow : (s.edges edge).get? (pairKey endpoint group) with
  | none => exact .inl ⟨rfl, by simp only [unlink, hrow]⟩
  | some row => exact .inr ⟨row, rfl, by simp only [unlink, hrow]⟩

theorem entities_link (s : Store) (now : Instant) (edge : EdgeKind) (endpoint group : Given) (kind : EntityKind) :
    (s.link now edge endpoint group).store.entities kind = s.entities kind := by
  rcases link_cases s now edge endpoint group with ⟨_, hl⟩ | ⟨_, _, _, _, hl⟩ <;> rw [hl]
  · rfl
  · exact entities_withEdges s edge _ kind

theorem entities_unlink (s : Store) (edge : EdgeKind) (endpoint group : Given) (kind : EntityKind) :
    (s.unlink edge endpoint group).store.entities kind = s.entities kind := by
  rcases unlink_cases s edge endpoint group with ⟨_, hu⟩ | ⟨_, _, hu⟩ <;> rw [hu]
  · rfl
  · exact entities_withEdges s edge _ kind

/-- What is done to a store, and its journal: every table is changed by one write at most. -/
def Changes (s u : Store) (journal : List Undo) : Prop :=
  ∀ t, (s.table t).Change (u.table t) (journalOf t journal)

theorem Changes.refl (s : Store) : s.Changes s [] := fun t => .refl (s.table t)

theorem table_drawId (s : Store) (kind : EntityKind) (asked : Given) (t : TableKind) :
    (s.drawId kind asked).2.table t = s.table t := by
  unfold drawId
  split
  · rfl
  · cases t with
    | entities other => cases other <;> rfl
    | edges edge => cases edge <;> rfl

theorem table_withPlaceFor (s : Store) (id : Given) (t : TableKind) :
    (s.withPlaceFor id).table t = s.table t := by
  unfold withPlaceFor
  split
  · cases t with
    | entities other => cases other <;> rfl
    | edges edge => cases edge <;> rfl
  · rfl

theorem withEntities_changes (s : Store) {kind : EntityKind} {rows : Table Identity (Entity kind)}
    {key : Identity} {before : Option (Entity kind)}
    (h : (s.entities kind).Change rows [(key, before)]) :
    s.Changes (s.withEntities kind rows) [.entity kind key before] := by
  intro t
  cases t with
  | entities other =>
      by_cases hk : kind = other
      · subst hk
        simpa [table, journalOf, Undo.entry?] using h
      · have hnone : journalOf (.entities other) [Undo.entity kind key before] = [] := by
          simp [journalOf, Undo.entry?, hk]
        rw [hnone, table, table, entities_withEntities_of_ne s hk]
        exact .refl _
  | edges edge =>
      rw [table, table, edges_withEntities]
      exact .refl _

theorem withEdges_changes (s : Store) {edge : EdgeKind} {rows : Table String Edge} {key : String}
    {before : Option Edge} (h : (s.edges edge).Change rows [(key, before)]) :
    s.Changes (s.withEdges edge rows) [.edge edge key before] := by
  intro t
  cases t with
  | entities kind =>
      rw [table, table, entities_withEdges]
      exact .refl _
  | edges other =>
      by_cases he : edge = other
      · subst he
        simpa [table, journalOf, Undo.entry?] using h
      · have hnone : journalOf (.edges other) [Undo.edge edge key before] = [] := by
          simp [journalOf, Undo.entry?, he]
        rw [hnone, table, table, edges_withEdges_of_ne s he]
        exact .refl _

theorem create_changes (s : Store) (now : Instant) {kind : EntityKind} (draft : Draft kind) :
    s.Changes (s.create now draft).store (s.create now draft).undo := by
  rcases create_cases s now draft with ⟨failure, h⟩ | ⟨id, drawn, stamp, hdraw, hrefusal, _, h⟩
  · rw [h]
    intro t
    rw [Outcome.unchanged, table_drawId]
    exact .refl _
  · rw [h]
    have hfree : (drawn.entities kind).get? (drawn.key id) = none := (createRefusal_eq_none_iff.1 hrefusal).1
    have hsame (t : TableKind) : s.table t = (drawn.withPlaceFor id).table t := by
      rw [table_withPlaceFor, ← table_drawId s kind draft.id, hdraw]
    have hrows : (drawn.withPlaceFor id).entities kind = drawn.entities kind :=
      table_withPlaceFor drawn id (.entities kind)
    intro t
    rw [hsame, hfree]
    apply withEntities_changes
    rw [hrows]
    exact .put hfree _

theorem delete_changes (s : Store) (kind : EntityKind) (id : Given) :
    s.Changes (s.delete kind id).store (s.delete kind id).undo := by
  rcases delete_cases s kind id with ⟨_, h⟩ | ⟨row, hrow, h⟩
  · rw [h]
    exact .refl s
  · rw [h]
    intro t
    cases t with
    | entities other =>
        have herase := withEntities_changes s (Table.Change.erase hrow) (.entities other)
        simpa only [table, entities_cascade, journalOf_cons _ _ (cascade _ _ _).2, journalOf_entities_cascade,
          List.append_nil] using herase
    | edges edge =>
        have hkeep := Table.Change.keep (s.edges edge) fun row => !refers edge kind id row.2
        have hnone : journalOf (.edges edge) [Undo.entity kind (s.key id) (some row)] = [] := rfl
        simpa only [table, edges_cascade, edges_withEntities, journalOf_cons _ _ (cascade _ _ _).2, hnone,
          journalOf_edges_cascade, List.nil_append, Bool.not_not] using hkeep

theorem link_changes (s : Store) (now : Instant) (edge : EdgeKind) (endpoint group : Given) :
    s.Changes (s.link now edge endpoint group).store (s.link now edge endpoint group).undo := by
  rcases link_cases s now edge endpoint group with ⟨answer, h⟩ | ⟨stamp, _, hfree, _, h⟩
  · rw [h]
    exact .refl s
  · rw [h]
    exact withEdges_changes s (.put hfree _)

theorem unlink_changes (s : Store) (edge : EdgeKind) (endpoint group : Given) :
    s.Changes (s.unlink edge endpoint group).store (s.unlink edge endpoint group).undo := by
  rcases unlink_cases s edge endpoint group with ⟨_, h⟩ | ⟨row, hrow, h⟩
  · rw [h]
    exact .refl s
  · rw [h]
    exact withEdges_changes s (.erase hrow)

theorem answer_changes (s : Store) (now : Instant) (request : Request) :
    s.Changes (s.answer now request).store (s.answer now request).undo := by
  cases request with
  | create kind input =>
      simp only [answer, createAsked]
      split
      · exact create_changes s now _
      · exact .refl s
  | delete kind id => exact delete_changes s kind id
  | link edge endpoint group => exact link_changes s now edge endpoint group
  | unlink edge endpoint group => exact unlink_changes s edge endpoint group
  | get | getByName | list | groupsOf | endpointsOf | clientsForSecret | secretPaths | linked | count =>
      exact .refl s

end Store

end SecretAccess
