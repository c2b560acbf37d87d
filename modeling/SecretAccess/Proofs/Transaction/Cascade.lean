import Mathlib.Data.List.Nodup
import SecretAccess.Proofs.Store.EdgeRows
import SecretAccess.Proofs.Store.Issued
import SecretAccess.Transaction.Session

namespace SecretAccess

theorem Table.rows_erase_of_append {κ α : Type} [DecidableEq κ] {t : Table κ α} {kept rest : List (κ × α)}
    {key : κ} {row : α} (h : t.rows = kept ++ (key, row) :: rest) :
    t.get? key = some row ∧ (t.erase key).rows = kept ++ rest := by
  have hnodup := t.nodup
  rw [h, List.map_append, List.map_cons, List.nodup_middle, List.nodup_cons, ← List.map_append] at hnodup
  have hothers : ∀ other ∈ kept ++ rest, other.1 ≠ key :=
    fun other hother he => hnodup.1 (List.mem_map.2 ⟨other, hother, he⟩)
  refine ⟨get?_eq_some_iff.2 (by simp [h]), ?_⟩
  calc (t.erase key).rows
      = kept.filter (·.1 ≠ key) ++ rest.filter (·.1 ≠ key) := by simp [erase, keep, h]
    _ = kept ++ rest := by
      rw [← List.filter_append, List.filter_eq_self]
      exact fun other hother => decide_eq_true (hothers other hother)

namespace Store

variable {s : Store}

theorem withEdges_withEdges (s : Store) (kind : EdgeKind) (rows others : Table String Edge) :
    (s.withEdges kind rows).withEdges kind others = s.withEdges kind others := by
  cases kind <;> rfl

def removeListed (kind : EdgeKind) (test : Edge → Bool) (done : Store × List Undo) (listed : String × Edge) :
    Store × List Undo :=
  if test listed.2 then
    match (done.1.edges kind).get? listed.1 with
    | none => done
    | some row =>
        (done.1.withEdges kind ((done.1.edges kind).erase listed.1), done.2 ++ [.edge kind listed.1 (some row)])
  else done

theorem foldl_removeListed (kind : EdgeKind) (test : Edge → Bool) (rest : List (String × Edge)) :
    ∀ (s : Store) (undo : List Undo) (kept : List (String × Edge)), (s.edges kind).rows = kept ++ rest →
      ∃ rows : Table String Edge, rows.rows = kept ++ rest.filter (fun row => !test row.2) ∧
        rest.foldl (removeListed kind test) (s, undo) = (s.withEdges kind rows,
          undo ++ (rest.filter fun row => test row.2).map fun row => .edge kind row.1 (some row.2)) := by
  -- no edge goes before it is listed, so what stands is what was kept and then the rest of the list
  induction rest with
  | nil =>
      intro s undo kept hrows
      exact ⟨s.edges kind, hrows, by simp [withEdges_self]⟩
  | cons listed rest ih =>
      intro s undo kept hrows
      obtain ⟨hget, herase⟩ := Table.rows_erase_of_append hrows
      cases htest : test listed.2 with
      | false =>
          obtain ⟨rows, hkept, hdone⟩ := ih s undo (kept ++ [listed]) (by rw [hrows, List.append_cons])
          refine ⟨rows, by simp [hkept, htest], ?_⟩
          rw [List.foldl_cons, removeListed, htest, if_neg Bool.false_ne_true, hdone]
          simp [htest]
      | true =>
          obtain ⟨rows, hkept, hdone⟩ := ih (s.withEdges kind ((s.edges kind).erase listed.1))
            (undo ++ [.edge kind listed.1 (some listed.2)]) kept (by rw [edges_withEdges, herase])
          refine ⟨rows, by simp [hkept, htest], ?_⟩
          rw [List.foldl_cons, removeListed, htest, if_pos rfl]
          simp only [hget]
          rw [hdone, withEdges_withEdges]
          simp [htest]

theorem removeEdges_eq_foldl (s : Store) (kind : EdgeKind) (test : Edge → Bool) :
    s.removeEdges kind test = (s.edges kind).rows.foldl (removeListed kind test) (s, []) := by
  obtain ⟨rows, hrows, hdone⟩ := foldl_removeListed kind test (s.edges kind).rows s [] [] rfl
  have hkept : rows = (s.edges kind).keep fun row => !test row.2 := Table.ext_rows hrows
  rw [hdone, hkept]
  rfl

theorem undo_cascade (s : Store) (id : Given) (kind : EntityKind) :
    (s.cascade id kind).2 = [EdgeKind.grant, .membership].flatMap fun edge =>
      ((s.edges edge).rows.filter fun row => refers edge kind id row.2).map fun row =>
        .edge edge row.1 (some row.2) := by
  cases kind <;> simp [cascade, removeEdges, refers, edges_withEdges_of_ne]

theorem mem_undo_cascade {id : Given} {kind : EntityKind} {undo : Undo} :
    undo ∈ (s.cascade id kind).2 ↔ ∃ edge key row, (s.edges edge).get? key = some row ∧
      refers edge kind id row = true ∧ undo = .edge edge key (some row) := by
  rw [undo_cascade, List.mem_flatMap]
  constructor
  · rintro ⟨edge, _, hundo⟩
    obtain ⟨⟨key, row⟩, hrow, rfl⟩ := List.mem_map.1 hundo
    obtain ⟨hstored, hrefers⟩ := List.mem_filter.1 hrow
    exact ⟨edge, key, row, Table.get?_eq_some_iff.2 hstored, hrefers, rfl⟩
  · rintro ⟨edge, key, row, hget, hrefers, rfl⟩
    refine ⟨edge, by cases edge <;> simp, ?_⟩
    exact List.mem_map.2 ⟨(key, row), List.mem_filter.2 ⟨Table.get?_eq_some_iff.1 hget, hrefers⟩, rfl⟩

theorem nodup_undo_cascade (s : Store) (id : Given) (kind : EntityKind) : (s.cascade id kind).2.Nodup := by
  rw [undo_cascade, List.nodup_flatMap]
  constructor
  · intro edge _
    have hkeys : (((s.edges edge).rows.filter fun row => refers edge kind id row.2).map (·.1)).Nodup :=
      (s.edges edge).nodup.sublist (List.filter_sublist.map _)
    apply List.Nodup.of_map fun undo => match undo with
      | .edge _ key _ => key
      | .entity .. => ""
    rwa [List.map_map]
  · have hdisjoint : List.Disjoint
        (((s.edges .grant).rows.filter fun row => refers .grant kind id row.2).map fun row =>
          Undo.edge .grant row.1 (some row.2))
        (((s.edges .membership).rows.filter fun row => refers .membership kind id row.2).map fun row =>
          Undo.edge .membership row.1 (some row.2)) := by
      intro undo hgrant hmembership
      obtain ⟨_, _, rfl⟩ := List.mem_map.1 hgrant
      obtain ⟨_, _, hsame⟩ := List.mem_map.1 hmembership
      cases hsame
    simpa [Function.onFun] using hdisjoint

theorem placed_withEntities (s : Store) (kind : EntityKind) (rows : Table Identity (Entity kind)) :
    (s.withEntities kind rows).placed = s.placed := by
  cases kind <;> rfl

theorem placed_cascade (s : Store) (id : Given) (kind : EntityKind) : (s.cascade id kind).1.placed = s.placed := by
  cases kind <;> rfl

theorem key_of_placed {s u : Store} (h : u.placed = s.placed) (id : Given) : u.key id = s.key id :=
  congrArg (fun place => id.identity place) h

/-- What is left of a store when an entity is gone and with it all edges that refer to it. -/
structure Without (s : Store) (kind : EntityKind) (id : Given) (u : Store) : Prop where
  gone : u.contains kind id = false
  own : (u.entities kind).rows = (s.entities kind).rows.filter fun row => row.1 ≠ s.key id
  entities : ∀ other ≠ kind, u.entities other = s.entities other
  edges : ∀ edge, (u.edges edge).rows = (s.edges edge).rows.filter fun row => !refers edge kind id row.2
  issued : u.issued = s.issued
  placed : u.placed = s.placed

end Store

def Undo.Lost (s u : Store) : Undo → Prop
  | .entity kind key before => before.isSome = true ∧ (s.entities kind).get? key = before ∧
      (u.entities kind).get? key = none
  | .edge kind key before => before.isSome = true ∧ (s.edges kind).get? key = before ∧
      (u.edges kind).get? key = none

namespace Store

variable {s : Store} {kind : EntityKind} {id : Given} {row : Entity kind}

theorem without_cascade (s : Store) (kind : EntityKind) (id : Given) :
    s.Without kind id ((s.withEntities kind ((s.entities kind).erase (s.key id))).cascade id kind).1 where
  gone := by
    have hplaced := placed_cascade (s.withEntities kind ((s.entities kind).erase (s.key id))) id kind
    rw [placed_withEntities] at hplaced
    rw [contains, key_of_placed hplaced, entities_cascade, entities_withEntities, Table.contains, Table.get?_erase,
      if_pos rfl]
    rfl
  own := by
    rw [entities_cascade, entities_withEntities]
    rfl
  entities other hother := by rw [entities_cascade, entities_withEntities_of_ne s hother.symm]
  edges edge := by
    rw [edges_cascade, edges_withEntities]
    rfl
  issued := by rw [issued_cascade, issued_withEntities]
  placed := by rw [placed_cascade, placed_withEntities]

theorem lost_iff (hrow : s.get? kind id = some row) {undo : Undo} :
    undo.Lost s ((s.withEntities kind ((s.entities kind).erase (s.key id))).cascade id kind).1 ↔
      undo = .entity kind (s.key id) (some row) ∨
        undo ∈ ((s.withEntities kind ((s.entities kind).erase (s.key id))).cascade id kind).2 := by
  rw [mem_undo_cascade]
  cases undo with
  | entity other key before =>
      rw [Undo.Lost, entities_cascade]
      by_cases hother : kind = other
      · subst hother
        rw [entities_withEntities, Table.get?_erase]
        constructor
        · rintro ⟨hsome, hbefore, hgone⟩
          by_cases hkey : key = s.key id
          · subst hkey
            rw [← hbefore, ← get?, hrow]
            exact .inl rfl
          · rw [if_neg hkey, hbefore] at hgone
            rw [hgone] at hsome
            cases hsome
        · rintro (he | ⟨_, _, _, _, _, he⟩) <;> cases he
          exact ⟨rfl, hrow, if_pos rfl⟩
      · rw [entities_withEntities_of_ne s hother]
        constructor
        · rintro ⟨hsome, hbefore, hgone⟩
          rw [← hbefore, hgone] at hsome
          cases hsome
        · rintro (he | ⟨_, _, _, _, _, he⟩) <;> cases he
          exact absurd rfl hother
  | edge edge key before =>
      rw [Undo.Lost, edges_cascade, edges_withEntities, Table.get?_keep]
      constructor
      · rintro ⟨hsome, hbefore, hgone⟩
        obtain ⟨row, rfl⟩ := Option.isSome_iff_exists.1 hsome
        exact .inr ⟨edge, key, row, by rwa [edges_withEntities], by simpa [hbefore, Option.filter] using hgone, rfl⟩
      · rintro (he | ⟨_, _, row, hget, hrefers, he⟩) <;> cases he
        rw [edges_withEntities] at hget
        exact ⟨rfl, hget, by simp [hget, Option.filter, hrefers]⟩

end Store

namespace Session

theorem run_delete (s : Session) (journaled : Bool) (kind : EntityKind) (id : Given) :
    let outcome := s.store.delete kind id
    s.run journaled (.request (.delete kind id)) = (outcome.answer, { s with
      store := outcome.store, journal := if journaled then s.journal ++ outcome.undo else s.journal }) := rfl

/-- A delete answers whether the entity was stored, in whatever state the store is and through whatever context it
comes. It changes nothing where it was not; else it leaves what is without the entity, and a transaction notes each
row that went, once. It is the same if edges are removed one after another, as they were listed at first. -/
theorem delete_leaves (s : Session) (journaled : Bool) (kind : EntityKind) (id : Given) :
    let run := s.run journaled (.request (.delete kind id))
    run.1 = .ok (s.store.contains kind id) ∧
      (s.store.contains kind id = false → run.2 = s) ∧
      (s.store.contains kind id = true → s.store.Without kind id run.2.store ∧
        ∃ undo : List Undo, undo.Nodup ∧ (∀ entry, entry ∈ undo ↔ entry.Lost s.store run.2.store) ∧
          run.2 = { s with
            store := run.2.store
            journal := if journaled then s.journal ++ undo else s.journal }) ∧
      ∀ (u : Store) (edge : EdgeKind) (test : Edge → Bool), u.removeEdges edge test =
        (u.edges edge).rows.foldl (Store.removeListed edge test) (u, []) := by
  intro run
  rcases s.store.delete_cases kind id with ⟨hnone, hdelete⟩ | ⟨row, hrow, hdelete⟩
  · have hstored : s.store.contains kind id = false := Option.isSome_eq_false_iff.2 (Option.isNone_iff_eq_none.2 hnone)
    have hrun : run = (.ok false, s) := by
      simp only [run, run_delete, hdelete, Outcome.unchanged, List.append_nil, ite_self]
    rw [hrun, hstored]
    exact ⟨rfl, fun _ => rfl, fun h => absurd h Bool.false_ne_true, Store.removeEdges_eq_foldl⟩
  · have hstored : s.store.contains kind id = true := Option.isSome_iff_exists.2 ⟨row, hrow⟩
    refine ⟨?_, fun h => absurd (h.symm.trans hstored) Bool.false_ne_true, fun _ => ?_, Store.removeEdges_eq_foldl⟩
    · simp only [run, run_delete, hdelete, hstored]
    · have hstore : run.2.store = (s.store.delete kind id).store := rfl
      rw [hdelete] at hstore
      rw [hstore]
      refine ⟨s.store.without_cascade kind id, _, ?_, ?_, by simp only [run, run_delete, hdelete]; rfl⟩
      · rw [List.nodup_cons]
        refine ⟨fun h => ?_, Store.nodup_undo_cascade _ id kind⟩
        obtain ⟨_, _, _, _, _, he⟩ := Store.mem_undo_cascade.1 h
        cases he
      · intro entry
        rw [Store.lost_iff hrow, List.mem_cons]

/-- A client, a group and a secret have the same id, which looks like two. Client and secret are joined to that group
and to another one. -/
def lookalikes : Session :=
  let create (kind : EntityKind) (id name : String) : Request :=
    .create kind (some (.fields [("id", .text id), ("name", .text name)]))
  let requests : List Request :=
    [create .client "a\",\"b" "ci", create .group "a\",\"b" "web", create .group "[b]" "ops",
      create .secret "a\",\"b" "token",
      .link .grant "a\",\"b" "a\",\"b", .link .grant "a\",\"b" "[b]",
      .link .membership "a\",\"b" "a\",\"b", .link .membership "a\",\"b" "[b]"]
  ⟨requests.foldl (fun s request => (s.answer 0 request).store) .empty, 0, [], [], false⟩

theorem delete_leaves_lookalikes :
    let run := lookalikes.run true (.request (.delete .group "a\",\"b"))
    lookalikes.store.contains .group "a\",\"b" = true ∧ run.1 = .ok true ∧
      lookalikes.store.Without .group "a\",\"b" run.2.store ∧ lookalikes.store.sizes = [1, 2, 1, 2, 2] ∧
      run.2.store.sizes = [1, 1, 1, 1, 1] ∧ run.2.journal.length = 3 ∧
      ∀ entry, entry ∈ run.2.journal ↔ entry.Lost lookalikes.store run.2.store := by
  intro run
  have hstored : lookalikes.store.contains .group "a\",\"b" = true := by decide
  obtain ⟨hanswer, _, hwithout, _⟩ := delete_leaves lookalikes true .group "a\",\"b"
  obtain ⟨hwithout, undo, _, hlost, hrun⟩ := hwithout hstored
  have hjournal : run.2.journal = undo := congrArg Session.journal hrun
  rw [hstored] at hanswer
  exact ⟨hstored, hanswer, hwithout, by decide, by decide, by decide, by rwa [hjournal]⟩

end Session

end SecretAccess
