import SecretAccess.Proofs.Access.Verdict

namespace SecretAccess

inductive Request.About (edge : EdgeKind) (endpoint group : String) : Request → Prop
  | link : About edge endpoint group (.link edge (some endpoint) (some group))
  | unlink : About edge endpoint group (.unlink edge (some endpoint) (some group))
  | linked : About edge endpoint group (.linked edge (some endpoint) (some group))

namespace Table

variable {κ α : Type} [DecidableEq κ] {t u : Table κ α}

theorem Change.get?_of_mem {journal : List (κ × Option α)} (h : Change t u journal) {key : κ} {row : α}
    (hmem : (key, some row) ∈ journal) : t.get? key = some row := by
  cases h with
  | put => cases List.mem_singleton.1 hmem
  | keep test =>
      obtain ⟨⟨k, old⟩, hrow, hentry⟩ := List.mem_map.1 hmem
      cases hentry
      exact get?_eq_some_iff.2 (List.mem_filter.1 hrow).1

theorem erase_put (t : Table κ α) (key : κ) (value : α) : (t.put key value).erase key = t.erase key := by
  apply ext_rows
  change (t.put key value).rows.filter _ = t.rows.filter _
  by_cases hc : t.contains key = true
  · rw [put, dif_pos hc]
    change (t.rows.map _).filter _ = _
    induction t.rows with
    | nil => rfl
    | cons row rows ih =>
        rw [List.map_cons]
        by_cases hrow : row.1 = key
        · rw [if_pos hrow, List.filter_cons_of_neg (by simp), List.filter_cons_of_neg (by simp [hrow]), ih]
        · rw [if_neg hrow, List.filter_cons_of_pos (by simp [hrow]), List.filter_cons_of_pos (by simp [hrow]), ih]
  · have hrows := rows_put (Option.not_isSome_iff_eq_none.1 hc) value
    rw [hrows, List.filter_append]
    simp

theorem erase_erase (t : Table κ α) (key : κ) : (t.erase key).erase key = t.erase key := by
  apply ext_rows
  change (t.rows.filter _).filter _ = t.rows.filter _
  rw [List.filter_filter]
  simp only [Bool.and_self]

theorem erase_restored (t : Table κ α) (key : κ) (before : Option α) :
    (Undo.restored t key before).erase key = t.erase key := by
  cases before with
  | none => exact erase_erase t key
  | some row => exact erase_put t key row

end Table

namespace Store

variable {s u : Store} {edge : EdgeKind} {endpoint group : Given}

theorem keyed_cleared (s : Store) : s.cleared.Keyed := s.cleared_wellFormed.keyed

theorem Keyed.withEdges (h : s.Keyed) {rows : Table String Edge}
    (hrows : ∀ key row, rows.get? key = some row → row.Under key) : (s.withEdges edge rows).Keyed := by
  intro other key row hget
  by_cases he : edge = other
  · subst he
    rw [edges_withEdges] at hget
    exact hrows key row hget
  · rw [edges_withEdges_of_ne s he] at hget
    exact h other key row hget

theorem Keyed.of_edges (h : s.Keyed) (hedges : ∀ edge, u.edges edge = s.edges edge) : u.Keyed := by
  intro edge key row hget
  rw [hedges] at hget
  exact h edge key row hget

theorem under_pairKey (hendpoint : endpoint.IsText) (hgroup : group.IsText) (stamp : Timestamp) :
    Edge.Under (pairKey endpoint group) ⟨endpoint, group, stamp⟩ := ⟨rfl, hendpoint, hgroup⟩

theorem Keyed.answer (h : s.Keyed) (now : Instant) {request : Request} (ht : request.Textual) :
    (s.answer now request).store.Keyed := by
  cases request with
  | create kind input =>
      rw [Store.answer, createAsked]
      split
      · exact h.of_edges (edges_create now _)
      · exact h
  | delete kind id =>
      rw [Store.answer]
      rcases delete_cases s kind id with ⟨_, hd⟩ | ⟨_, _, hd⟩
      · rw [hd]
        exact h
      · rw [hd]
        intro edge key row hget
        rw [edges_cascade, edges_withEntities, Table.get?_keep] at hget
        exact h edge key row (Option.filter_eq_some_iff.1 hget).1
  | link edge endpoint group =>
      rw [Store.answer]
      rcases link_cases s now edge endpoint group with ⟨_, hl⟩ | ⟨stamp, _, _, _, hl⟩
      · rw [hl]
        exact h
      · rw [hl]
        apply h.withEdges
        intro key row hget
        rw [Table.get?_put] at hget
        split at hget
        · rename_i hkey
          cases hget
          rw [hkey]
          exact under_pairKey ht.1 ht.2 stamp
        · exact h edge key row hget
  | unlink edge endpoint group =>
      rw [Store.answer]
      rcases unlink_cases s edge endpoint group with ⟨_, hu⟩ | ⟨_, _, hu⟩
      · rw [hu]
        exact h
      · rw [hu]
        apply h.withEdges
        intro key row hget
        rw [Table.get?_erase] at hget
        split at hget
        · cases hget
        · exact h edge key row hget
  | get | getByName | list | groupsOf | endpointsOf | clientsForSecret | secretPaths | linked | count => exact h

theorem Keyed.rollBack (h : s.Keyed) {journal : List Undo}
    (hjournal : ∀ edge key row, (key, some row) ∈ journalOf (.edges edge) journal → Edge.Under key row) :
    (s.rollBack journal).Keyed := by
  intro edge key row hget
  have htable : (s.rollBack journal).edges edge = (s.edges edge).rollBack (journalOf (.edges edge) journal) :=
    table_rollBack s journal (.edges edge)
  rw [htable, Table.get?_rollBack] at hget
  cases hlookup : (journalOf (.edges edge) journal).lookup key with
  | none =>
      rw [hlookup] at hget
      exact h edge key row hget
  | some before =>
      rw [hlookup, Option.getD_some] at hget
      subst hget
      obtain ⟨first, last, hsplit, _⟩ := List.lookup_eq_some_iff.1 hlookup
      exact hjournal edge key row (hsplit ▸ List.mem_append_right first List.mem_cons_self)

structure Spares (edge : EdgeKind) (endpoint group : Given) (s u : Store) : Prop where
  pairs : ((u.edges edge).values.filter fun row => !row.joins endpoint group) =
    (s.edges edge).values.filter fun row => !row.joins endpoint group
  edges : ∀ other, other ≠ edge → u.edges other = s.edges other
  entities : ∀ kind, u.entities kind = s.entities kind

theorem Spares.refl (s : Store) : Spares edge endpoint group s s := ⟨rfl, fun _ _ => rfl, fun _ => rfl⟩

/-- What a pair shows of two stores is the same: whether its ends are stored, and the edge that joins it. -/
structure SameAt (edge : EdgeKind) (endpoint group : Given) (s u : Store) : Prop where
  storedEndpoint : s.contains edge.endpoint endpoint = u.contains edge.endpoint endpoint
  storedGroup : s.contains .group group = u.contains .group group
  row : (s.edges edge).values.filter (Edge.joins endpoint group) =
    (u.edges edge).values.filter (Edge.joins endpoint group)

theorem contains_withEdges (s : Store) (edge : EdgeKind) (rows : Table String Edge) (kind : EntityKind) (id : Given) :
    (s.withEdges edge rows).contains kind id = s.contains kind id := by
  cases edge <;> cases kind <;> rfl

section

variable (hs : s.Keyed) (hendpoint : endpoint.IsText) (hgroup : group.IsText)

include hs hendpoint hgroup

theorem Keyed.spares_withEdges {rows : Table String Edge} (hkeyed : (s.withEdges edge rows).Keyed)
    (hrows : rows.erase (pairKey endpoint group) = (s.edges edge).erase (pairKey endpoint group)) :
    Spares edge endpoint group s (s.withEdges edge rows) where
  pairs := by
    rw [← Table.values_erase _ (hkeyed.joins_eq hendpoint hgroup),
      ← Table.values_erase _ (hs.joins_eq hendpoint hgroup), edges_withEdges, hrows]
  edges _ hother := edges_withEdges_of_ne s hother.symm rows
  entities := entities_withEdges s edge rows

theorem Keyed.sameAt_iff (hu : u.Keyed) : SameAt edge endpoint group s u ↔
    (s.contains edge.endpoint endpoint = u.contains edge.endpoint endpoint ∧
      s.contains .group group = u.contains .group group) ∧
    (s.edges edge).get? (pairKey endpoint group) = (u.edges edge).get? (pairKey endpoint group) := by
  have hrow (found twin : Option Edge) : found.toList = twin.toList ↔ found = twin := by
    cases found <;> cases twin <;> simp
  rw [← hrow, ← hs.filter_joins hendpoint hgroup, ← hu.filter_joins hendpoint hgroup]
  exact ⟨fun h => ⟨⟨h.storedEndpoint, h.storedGroup⟩, h.row⟩, fun h => ⟨h.1.1, h.1.2, h.2⟩⟩

end

end Store

namespace Request

variable {edge : EdgeKind} {endpoint group : String} {request : Request}

theorem About.textual (h : request.About edge endpoint group) : request.Textual := by
  cases h with
  | link | unlink => exact ⟨⟨_, rfl⟩, ⟨_, rfl⟩⟩
  | linked => trivial

end Request

namespace Store

variable {s u : Store} {edge : EdgeKind} {endpoint group : String} {request : Request}

theorem Keyed.spares_answer (h : s.Keyed) (now : Instant) (habout : request.About edge endpoint group) :
    Spares edge (some endpoint) (some group) s (s.answer now request).store := by
  have hkeyed := h.answer now habout.textual
  cases habout with
  | link =>
      rw [Store.answer] at hkeyed ⊢
      rcases link_cases s now edge (some endpoint) (some group) with ⟨_, hl⟩ | ⟨_, _, _, _, hl⟩
      · rw [hl]
        exact .refl s
      · rw [hl] at hkeyed ⊢
        exact h.spares_withEdges ⟨_, rfl⟩ ⟨_, rfl⟩ hkeyed (Table.erase_put _ _ _)
  | unlink =>
      rw [Store.answer] at hkeyed ⊢
      rcases unlink_cases s edge (some endpoint) (some group) with ⟨_, hu⟩ | ⟨_, _, hu⟩
      · rw [hu]
        exact .refl s
      · rw [hu] at hkeyed ⊢
        exact h.spares_withEdges ⟨_, rfl⟩ ⟨_, rfl⟩ hkeyed (Table.erase_erase _ _)
  | linked => exact .refl s

theorem undo_of_about (s : Store) (now : Instant) (habout : request.About edge endpoint group) :
    (s.answer now request).undo = [] ∨ (s.answer now request).undo =
      [.edge edge (pairKey (some endpoint) (some group))
        ((s.edges edge).get? (pairKey (some endpoint) (some group)))] := by
  cases habout with
  | link =>
      rw [Store.answer]
      rcases link_cases s now edge (some endpoint) (some group) with ⟨_, hl⟩ | ⟨_, _, hfree, _, hl⟩
      · exact .inl (by rw [hl]; rfl)
      · exact .inr (by rw [hl, hfree])
  | unlink =>
      rw [Store.answer]
      rcases unlink_cases s edge (some endpoint) (some group) with ⟨_, hu⟩ | ⟨_, hrow, hu⟩
      · exact .inl (by rw [hu]; rfl)
      · exact .inr (by rw [hu, hrow])
  | linked => exact .inl rfl

theorem Keyed.spares_rollBack (h : s.Keyed) (hu : u.Keyed) (now : Instant)
    (habout : request.About edge endpoint group) :
    Spares edge (some endpoint) (some group) u (u.rollBack (s.answer now request).undo) := by
  rcases s.undo_of_about now habout with hundo | hundo
  · rw [hundo]
    exact .refl u
  · rw [hundo]
    refine hu.spares_withEdges ⟨_, rfl⟩ ⟨_, rfl⟩ ?_ (Table.erase_restored _ _ _)
    apply hu.withEdges
    intro key row hget
    rw [Table.get?_restored] at hget
    split at hget
    · rename_i hkey
      rw [hkey]
      exact h edge _ row hget
    · exact hu edge key row hget

/-- An outcome is the same in two stores: the answer, how it is taken back, and what the pair shows afterwards. -/
structure SameOutcome (edge : EdgeKind) (endpoint group : Given) {α : Type} (outcome twin : Outcome α) : Prop where
  answer : outcome.answer = twin.answer
  undo : outcome.undo = twin.undo
  store : SameAt edge endpoint group outcome.store twin.store

theorem SameOutcome.unchanged {α : Type} (h : SameAt edge (some endpoint) (some group) s u)
    (answer : Except Failure α) :
    SameOutcome edge (some endpoint) (some group) (.unchanged s answer) (.unchanged u answer) := ⟨rfl, rfl, h⟩

theorem Keyed.sameAt_withEdges (hs : s.Keyed) (hu : u.Keyed) (h : SameAt edge (some endpoint) (some group) s u)
    {rows twin : Table String Edge} (hkeyed : (s.withEdges edge rows).Keyed) (hkeyed' : (u.withEdges edge twin).Keyed)
    (hrows : rows.get? (pairKey (some endpoint) (some group)) = twin.get? (pairKey (some endpoint) (some group))) :
    SameAt edge (some endpoint) (some group) (s.withEdges edge rows) (u.withEdges edge twin) := by
  obtain ⟨hends, _⟩ := (hs.sameAt_iff ⟨_, rfl⟩ ⟨_, rfl⟩ hu).1 h
  rw [hkeyed.sameAt_iff ⟨_, rfl⟩ ⟨_, rfl⟩ hkeyed', edges_withEdges, edges_withEdges]
  simp only [contains_withEdges]
  exact ⟨hends, hrows⟩

theorem Keyed.sameOutcome_link (hs : s.Keyed) (hu : u.Keyed) (now : Instant)
    (h : SameAt edge (some endpoint) (some group) s u) :
    SameOutcome edge (some endpoint) (some group) (s.link now edge (some endpoint) (some group))
      (u.link now edge (some endpoint) (some group)) := by
  have hkeyed : (s.link now edge (some endpoint) (some group)).store.Keyed := hs.answer now Request.About.link.textual
  have hkeyed' : (u.link now edge (some endpoint) (some group)).store.Keyed := hu.answer now Request.About.link.textual
  obtain ⟨⟨hend, hgroup⟩, hget⟩ := (hs.sameAt_iff ⟨_, rfl⟩ ⟨_, rfl⟩ hu).1 h
  have hrefusal : s.linkRefusal edge (some endpoint) (some group) =
      u.linkRefusal edge (some endpoint) (some group) := by
    rw [linkRefusal, linkRefusal, hend, hgroup]
  cases hrefused : u.linkRefusal edge (some endpoint) (some group) with
  | some failure =>
      simp only [link, hrefusal, hrefused]
      exact .unchanged h (.error failure)
  | none =>
      cases hrow : (u.edges edge).get? (pairKey (some endpoint) (some group)) with
      | some row =>
          simp only [link, hrefusal, hrefused, Table.contains, hget, hrow, Option.isSome_some, if_true]
          exact .unchanged h (.ok ())
      | none =>
          simp only [link, hrefusal, hrefused, Table.contains, hget, hrow, Option.isSome_none, Bool.false_eq_true,
            if_false] at hkeyed hkeyed' ⊢
          cases hstamp : now.toText? with
          | none => exact .unchanged h (.error .invalidInstant)
          | some stamp =>
              simp only [hstamp] at hkeyed hkeyed'
              refine ⟨rfl, rfl, hs.sameAt_withEdges hu h hkeyed hkeyed' ?_⟩
              rw [Table.get?_put, Table.get?_put, if_pos rfl, if_pos rfl]

theorem Keyed.sameOutcome_unlink (hs : s.Keyed) (hu : u.Keyed) (h : SameAt edge (some endpoint) (some group) s u) :
    SameOutcome edge (some endpoint) (some group) (s.unlink edge (some endpoint) (some group))
      (u.unlink edge (some endpoint) (some group)) := by
  have hkeyed : (s.unlink edge (some endpoint) (some group)).store.Keyed := hs.answer 0 Request.About.unlink.textual
  have hkeyed' : (u.unlink edge (some endpoint) (some group)).store.Keyed := hu.answer 0 Request.About.unlink.textual
  obtain ⟨_, hget⟩ := (hs.sameAt_iff ⟨_, rfl⟩ ⟨_, rfl⟩ hu).1 h
  cases hrow : (u.edges edge).get? (pairKey (some endpoint) (some group)) with
  | none =>
      simp only [unlink, hget, hrow]
      exact .unchanged h (.ok ())
  | some row =>
      simp only [unlink, hget, hrow] at hkeyed hkeyed' ⊢
      refine ⟨rfl, rfl, hs.sameAt_withEdges hu h hkeyed hkeyed' ?_⟩
      rw [Table.get?_erase, Table.get?_erase, if_pos rfl, if_pos rfl]

theorem Keyed.linked_eq_any (h : s.Keyed) :
    s.linked edge (some endpoint) (some group) =
      (s.edges edge).values.any (Edge.joins (some endpoint) (some group)) := by
  rw [Bool.eq_iff_iff, ← h.joined_iff ⟨_, rfl⟩ ⟨_, rfl⟩, List.any_eq_true]
  simp only [Joined, Edge.joins, decide_eq_true_eq]

theorem Keyed.sameOutcome_answer (hs : s.Keyed) (hu : u.Keyed) (now : Instant)
    (habout : request.About edge endpoint group) (h : SameAt edge (some endpoint) (some group) s u) :
    SameOutcome edge (some endpoint) (some group) (s.answer now request) (u.answer now request) := by
  cases habout with
  | link => exact hs.sameOutcome_link hu now h
  | unlink => exact hs.sameOutcome_unlink hu h
  | linked =>
      obtain ⟨_, hget⟩ := (hs.sameAt_iff ⟨_, rfl⟩ ⟨_, rfl⟩ hu).1 h
      have hlinked : s.linked edge (some endpoint) (some group) = u.linked edge (some endpoint) (some group) :=
        congrArg Option.isSome hget
      rw [Store.answer, Store.answer, hlinked]
      exact .unchanged h (.ok _)

end Store

/-- Every edge stands under its own pair, now and after the open transaction is taken back. -/
structure Session.Keyed (s : Session) : Prop where
  rows : s.store.Keyed
  journal : ∀ edge key row, (key, some row) ∈ journalOf (.edges edge) s.journal → Edge.Under key row

namespace Session.Keyed

variable {s s' : Session}

theorem asked (h : s.Keyed) {journaled : Bool} {request : Request} (hasked : s.Asked journaled request s')
    (ht : request.Textual) : s'.Keyed where
  rows := hasked.store ▸ h.rows.answer s.clock ht
  journal := by
    intro edge key row hmem
    rw [hasked.journal] at hmem
    split at hmem
    · rw [journalOf_append, List.mem_append] at hmem
      rcases hmem with hmem | hmem
      · exact h.journal edge key row hmem
      -- what is noted now stood in the store before
      · exact h.rows edge key row ((s.store.answer_changes s.clock request (.edges edge)).get?_of_mem hmem)
    · exact h.journal edge key row hmem

theorem close (h : s.Keyed) (failed : Bool) : (s.close failed).Keyed where
  rows := by
    cases failed with
    | true => exact h.rows.rollBack h.journal
    | false => exact h.rows
  journal _ _ _ hmem := nomatch hmem

end Session.Keyed

namespace Queue

theorem keyed_after (q : Queue) (e : Event) (h : q.session.Keyed) (ht : q.Textual e) : (q.after e).session.Keyed := by
  cases q.turn e with
  | settle _ _ hafter =>
      rw [hafter]
      exact h.close _
  | effect effect =>
      cases effect with
      | still store journal => exact ⟨store ▸ h.rows, journal ▸ h.journal⟩
      | clear _ store journal => exact ⟨store ▸ q.session.store.keyed_cleared, journal ▸ h.journal⟩
      | request takes _ _ textual asked => exact h.asked asked (textual (ht _ takes))

theorem keyed_run (now : Instant) (quiet : Bool) {events : List Event} (h : (make now quiet).Along Textual events) :
    ((make now quiet).run events).session.store.Keyed := by
  have hmake : (make now quiet).session.Keyed := ⟨Store.empty_wellFormed.keyed, fun _ _ _ hmem => nomatch hmem⟩
  have hkeyed : ((make now quiet).run events).session.Keyed := run_invariant keyed_after hmake h
  exact hkeyed.rows

/-- Two pairs of texts never have the same key. So in every run a pair is found to be joined where an edge joins it,
and to join it, to part it or to ask whether it is joined changes no edge of another pair, nor does it when it is taken
back later, in this run or in another. What comes of it is decided by the ends of the pair and by its own edge, whatever
else is stored. -/
theorem pairs_apart (now : Instant) (quiet : Bool) {events : List Event}
    (h : (make now quiet).Along Textual events) :
    (∀ l r l' r' : String, pairKey (some l) (some r) = pairKey (some l') (some r') → l = l' ∧ r = r') ∧
    let s := ((make now quiet).run events).session.store
    ∀ (edge : EdgeKind) (endpoint group : String),
      s.linked edge (some endpoint) (some group) =
        (s.edges edge).values.any (Edge.joins (some endpoint) (some group)) ∧
      ∀ (request : Request) (clock : Instant), request.About edge endpoint group →
        Store.Spares edge (some endpoint) (some group) s (s.answer clock request).store ∧
        ∀ (now' : Instant) (quiet' : Bool) (events' : List Event), (make now' quiet').Along Textual events' →
          let u := ((make now' quiet').run events').session.store
          Store.Spares edge (some endpoint) (some group) u (u.rollBack (s.answer clock request).undo) ∧
          (Store.SameAt edge (some endpoint) (some group) s u →
            Store.SameOutcome edge (some endpoint) (some group) (s.answer clock request) (u.answer clock request)) := by
  have hkeyed := keyed_run now quiet h
  constructor
  · intro l r l' r' hkey
    obtain ⟨hl, hr⟩ := pairKey_inj ⟨l, rfl⟩ ⟨r, rfl⟩ ⟨l', rfl⟩ ⟨r', rfl⟩ hkey
    cases hl
    cases hr
    exact ⟨rfl, rfl⟩
  · intro s edge endpoint group
    refine ⟨hkeyed.linked_eq_any, fun request clock habout => ⟨hkeyed.spares_answer clock habout, ?_⟩⟩
    intro now' quiet' events' h'
    have hother := keyed_run now' quiet' h'
    exact ⟨hkeyed.spares_rollBack hother clock habout, hkeyed.sameOutcome_answer hother clock habout⟩

def alikeWhenJoined : List Event :=
  [.step (.call .autocommit (creating .secret "s\",\"g" "key")), .step (.call .autocommit (creating .secret "s" "pin")),
    .step (.call .autocommit (creating .group "h" "web")), .step (.call .autocommit (creating .group "g\",\"h" "api")),
    .step (.call .autocommit (.request (.link .grant (some "s\",\"g") (some "h"))))]

theorem pairs_apart_alikeWhenJoined :
    let s := ((make 0 false).run alikeWhenJoined).session.store
    (make 0 false).Along Textual alikeWhenJoined ∧
      pairKey (some "s\",\"g") (some "h") ≠ pairKey (some "s") (some "g\",\"h") ∧
      s.linked .grant (some "s\",\"g") (some "h") = true ∧ s.linked .grant (some "s") (some "g\",\"h") = false ∧
      Store.Spares .grant (some "s") (some "g\",\"h") s (s.unlink .grant (some "s") (some "g\",\"h")).store ∧
      Store.SameOutcome .grant (some "s") (some "g\",\"h") (s.link 0 .grant (some "s") (some "g\",\"h"))
        ((s.unlink .grant (some "s\",\"g") (some "h")).store.link 0 .grant (some "s") (some "g\",\"h")) := by
  intro s
  have htextual : (make 0 false).Along Textual alikeWhenJoined := by decide
  obtain ⟨hinj, hpairs⟩ := pairs_apart 0 false htextual
  obtain ⟨hlinked, habout⟩ := hpairs .grant "s" "g\",\"h"
  let unlinked : Event := .step (.call .autocommit (.request (.unlink .grant (some "s\",\"g") (some "h"))))
  have hunlinked : (make 0 false).Along Textual (alikeWhenJoined ++ [unlinked]) := by decide
  refine ⟨htextual, fun hkey => absurd (hinj _ _ _ _ hkey).1 (by decide), by decide, by decide,
    (habout _ 0 .unlink).1, ?_⟩
  exact ((habout _ 0 .link).2 0 false _ hunlinked).2 ⟨rfl, rfl, by decide⟩

end Queue

end SecretAccess
