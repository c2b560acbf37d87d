import Mathlib.Data.List.Perm.Basic
import SecretAccess.Proofs.Access.Distinct
import SecretAccess.Proofs.Store.Issued
import SecretAccess.Proofs.Store.Joins

namespace SecretAccess

theorem find?_eq_of_perm {α : Type} {rows others : List α} {test : α → Bool} (hperm : rows.Perm others)
    (hone : ∀ row ∈ rows, ∀ twin ∈ rows, test row = true → test twin = true → row = twin) :
    rows.find? test = others.find? test := by
  cases hfound : others.find? test with
  | none =>
      rw [List.find?_eq_none] at hfound ⊢
      exact fun row hrow => hfound row (hperm.mem_iff.1 hrow)
  | some twin =>
      have htwin := hperm.mem_iff.2 (List.mem_of_find?_eq_some hfound)
      have htest := List.find?_some hfound
      cases hfirst : rows.find? test with
      | none => exact absurd htest (List.find?_eq_none.1 hfirst twin htwin)
      | some row =>
          rw [hone row (List.mem_of_find?_eq_some hfirst) twin htwin (List.find?_some hfirst) htest]

namespace Table

variable {κ α : Type} [DecidableEq κ] {t u : Table κ α}

theorem rows_perm (h : ∀ key, t.get? key = u.get? key) : t.rows.Perm u.rows := by
  refine (List.perm_ext_iff_of_nodup t.nodup.of_map u.nodup.of_map).2 fun row => ?_
  rw [← get?_eq_some_iff, ← get?_eq_some_iff, h]

theorem values_perm (h : ∀ key, t.get? key = u.get? key) : t.values.Perm u.values :=
  (rows_perm h).map _

theorem size_eq (h : ∀ key, t.get? key = u.get? key) : t.size = u.size :=
  (rows_perm h).length_eq

end Table

/-- Two outcomes that cannot be told apart: answers that are the same in some sense, or one failure. -/
inductive Alike {α : Type} (same : α → α → Prop) : Except Failure α → Except Failure α → Prop
  | ok {answer twin : α} (answers : same answer twin) : Alike same (.ok answer) (.ok twin)
  | error (failure : Failure) : Alike same (.error failure) (.error failure)

theorem Alike.refl {α : Type} {same : α → α → Prop} (hrefl : ∀ answer, same answer answer)
    (outcome : Except Failure α) : Alike same outcome outcome := by
  cases outcome with
  | ok answer => exact .ok (hrefl answer)
  | error failure => exact .error failure

theorem Alike.map {α β : Type} {same : α → α → Prop} {same' : β → β → Prop} {outcome twin : Except Failure α}
    (h : Alike same outcome twin) {f : α → β} (hf : ∀ a b, same a b → same' (f a) (f b)) :
    Alike same' (outcome.map f) (twin.map f) := by
  cases h with
  | ok hsame => exact .ok (hf _ _ hsame)
  | error failure => exact .error failure

/-- Answers of two stores that hold the same rows. The joins promise no order. -/
def Request.SameRows : (request : Request) → request.Answer → request.Answer → Prop
  | .groupsOf .., rows, others => rows.Perm others
  | .endpointsOf .., rows, others => rows.Perm others
  | .clientsForSecret _, rows, others => rows.Perm others
  | .secretPaths .., rows, others => rows.Perm others
  | .create .., answer, twin => answer = twin
  | .get .., answer, twin => answer = twin
  | .getByName .., answer, twin => answer = twin
  | .list _, answer, twin => answer = twin
  | .delete .., answer, twin => answer = twin
  | .link .., answer, twin => answer = twin
  | .unlink .., answer, twin => answer = twin
  | .linked .., answer, twin => answer = twin
  | .count _, answer, twin => answer = twin

theorem Request.SameRows.refl (request : Request) (answer : request.Answer) : request.SameRows answer answer := by
  cases request with
  | groupsOf | endpointsOf | clientsForSecret | secretPaths => exact List.Perm.refl _
  | create | get | getByName | list | delete | link | unlink | linked | count => exact Eq.refl _

namespace Store

variable {s u : Store}

theorem Same.symm (h : s.Same u) : u.Same s := fun t key => (h t key).symm

theorem Same.trans {v : Store} (h : s.Same u) (h' : u.Same v) : s.Same v := fun t key => (h t key).trans (h' t key)

theorem Same.entities (h : s.Same u) (kind : EntityKind) (key : Identity) :
    (s.entities kind).get? key = (u.entities kind).get? key := h (.entities kind) key

theorem Same.edges (h : s.Same u) (edge : EdgeKind) (key : String) :
    (s.edges edge).get? key = (u.edges edge).get? key := h (.edges edge) key

theorem Same.sizes (h : s.Same u) : s.sizes = u.sizes := by
  have hentities (kind : EntityKind) : (s.entities kind).size = (u.entities kind).size := Table.size_eq (h.entities kind)
  have hedges (edge : EdgeKind) : (s.edges edge).size = (u.edges edge).size := Table.size_eq (h.edges edge)
  calc s.sizes
      = [(s.entities .client).size, (s.entities .group).size, (s.entities .secret).size, (s.edges .grant).size,
          (s.edges .membership).size] := rfl
    _ = u.sizes := by
      simp only [hentities, hedges]
      rfl

theorem WellFormed.get?_eq (h : s.WellFormed) (kind : EntityKind) (id : Given) :
    s.get? kind id = (s.entities kind).get? (.value id) := by
  by_cases halone : id.standsAlone = true
  · have hkey : s.key id = .place s.placed := if_pos halone
    have hplace : (s.entities kind).get? (.place s.placed) = none := by
      cases hget : (s.entities kind).get? (.place s.placed) with
      | none => rfl
      | some row => cases (h.entities kind).key hget
    have hvalue : (s.entities kind).get? (.value id) = none := by
      cases hget : (s.entities kind).get? (.value id) with
      | none => rfl
      | some row =>
          obtain ⟨text, htext⟩ := ((h.entities kind).text hget).1
          rw [Identity.value.inj ((h.entities kind).key hget), htext] at halone
          cases halone
    rw [Store.get?, hkey, hplace, hvalue]
  · rw [Store.get?, Store.key, Given.identity, if_neg halone]

theorem WellFormed.get?_eq_of_same (h : s.WellFormed) (hsame : s.Same u) (kind : EntityKind) :
    s.get? kind = u.get? kind := by
  funext id
  rw [h.get?_eq, (h.of_same hsame.symm).get?_eq, hsame.entities]

theorem WellFormed.getByName?_eq_of_same (h : s.WellFormed) (hsame : s.Same u) (kind : EntityKind) (name : Given) :
    s.getByName? kind name = u.getByName? kind name := by
  apply find?_eq_of_perm (Table.values_perm (hsame.entities kind))
  intro row hrow twin htwin hname hname'
  rw [Given.sameAs, Bool.and_eq_true, decide_eq_true_iff] at hname hname'
  exact h.eq_of_name hrow htwin (hname.2.trans hname'.2.symm)

theorem WellFormed.exists_list (h : s.WellFormed) (kind : EntityKind) :
    ∃ rows, s.list kind = .ok rows ∧ rows.Perm (s.entities kind).values ∧
      rows.Pairwise fun a b => a.name.Below b.name := by
  have hids : ((s.entities kind).values.map (·.id)).Nodup := by
    have hkeys : (s.entities kind).keys = ((s.entities kind).values.map (·.id)).map Identity.value := by
      rw [Table.keys, Table.values, List.map_map, List.map_map]
      exact List.map_congr_left fun row hrow => (h.entities kind).key (Table.get?_eq_some_iff.2 hrow)
    exact List.Nodup.of_map Identity.value (hkeys ▸ (s.entities kind).nodup)
  have hnames := (h.distinguished (List.Subset.refl _)).nodup_names (fun row hrow => hrow) hids
  exact sortByName_of_texts (fun row hrow => (h.isText hrow).2) hnames

theorem WellFormed.list_eq_of_same (h : s.WellFormed) (hsame : s.Same u) (kind : EntityKind) :
    s.list kind = u.list kind := by
  obtain ⟨rows, hrows, hperm, hascend⟩ := h.exists_list kind
  obtain ⟨others, hothers, hperm', hascend'⟩ := (h.of_same hsame.symm).exists_list kind
  have hall := (hperm.trans (Table.values_perm (hsame.entities kind))).trans hperm'.symm
  rw [hrows, hothers, eq_of_below hascend hascend' fun row => hall.mem_iff]

theorem WellFormed.groupsOf_perm (h : s.WellFormed) (hsame : s.Same u) (edge : EdgeKind) (endpoint : Given) :
    (s.groupsOf edge endpoint).Perm (u.groupsOf edge endpoint) := by
  rw [groupsOf, groupsOf, h.get?_eq_of_same hsame]
  exact (Table.values_perm (hsame.edges edge)).filterMap _

theorem WellFormed.endpointsOf_perm (h : s.WellFormed) (hsame : s.Same u) (edge : EdgeKind) (group : Given) :
    (s.endpointsOf edge group).Perm (u.endpointsOf edge group) := by
  rw [endpointsOf, endpointsOf, h.get?_eq_of_same hsame]
  exact (Table.values_perm (hsame.edges edge)).filterMap _

theorem WellFormed.clientsForSecret_perm (h : s.WellFormed) (hsame : s.Same u) (secret : Given) :
    (s.clientsForSecret secret).Perm (u.clientsForSecret secret) := by
  apply (Table.values_perm (hsame.edges .grant)).flatMap
  intro grant _
  by_cases hsecret : grant.endpoint = secret
  · rw [if_pos hsecret, if_pos hsecret]
    exact h.endpointsOf_perm hsame .membership grant.group
  · rw [if_neg hsecret, if_neg hsecret]

theorem WellFormed.pathsFrom_perm (h : s.WellFormed) (hsame : s.Same u) (client : Given) :
    (s.pathsFrom client).Perm (u.pathsFrom client) := by
  apply (Table.values_perm (hsame.edges .membership)).flatMap
  intro membership _
  by_cases hclient : membership.endpoint = client
  · rw [if_pos hclient, if_pos hclient, ← h.get?_eq_of_same hsame]
    cases s.get? .group membership.group with
    | none => exact .refl _
    | some group => exact (h.endpointsOf_perm hsame .grant group.id).map _
  · rw [if_neg hclient, if_neg hclient]

theorem WellFormed.secretPaths_alike (h : s.WellFormed) (hsame : s.Same u) (client : Given)
    (name : Except Failure Given) :
    Alike List.Perm (s.secretPaths client name) (u.secretPaths client name) := by
  have hpaths := h.pathsFrom_perm hsame client
  cases name with
  | ok name => exact .ok (hpaths.filter _)
  | error failure =>
      simp only [secretPaths, hpaths.isEmpty_eq]
      split
      · exact .ok (.refl _)
      · exact .error failure

theorem WellFormed.createRefusal_eq_of_same (h : s.WellFormed) (hsame : s.Same u) (kind : EntityKind) (id name : Given) :
    s.createRefusal kind id name = u.createRefusal kind id name := by
  have hstored : s.contains kind id = u.contains kind id :=
    congrArg Option.isSome (congrFun (h.get?_eq_of_same hsame kind) id)
  rw [createRefusal, createRefusal, hstored, (Table.values_perm (hsame.entities kind)).any_eq]

theorem WellFormed.linkRefusal_eq_of_same (h : s.WellFormed) (hsame : s.Same u) (edge : EdgeKind)
    (endpoint group : Given) : s.linkRefusal edge endpoint group = u.linkRefusal edge endpoint group := by
  have hstored (kind : EntityKind) (id : Given) : s.contains kind id = u.contains kind id :=
    congrArg Option.isSome (congrFun (h.get?_eq_of_same hsame kind) id)
  rw [linkRefusal, linkRefusal, hstored, hstored]

theorem Same.withEntities (h : s.Same u) {kind : EntityKind} {rows others : Table Identity (Entity kind)}
    (hrows : ∀ key, rows.get? key = others.get? key) : (s.withEntities kind rows).Same (u.withEntities kind others) := by
  intro t key
  cases t with
  | entities other =>
      by_cases hk : kind = other
      · subst hk
        rw [table, table, entities_withEntities, entities_withEntities]
        exact hrows key
      · rw [table, table, entities_withEntities_of_ne s hk, entities_withEntities_of_ne u hk]
        exact h.entities other key
  | edges edge =>
      rw [table, table, edges_withEntities, edges_withEntities]
      exact h.edges edge key

theorem Same.withEdges (h : s.Same u) {edge : EdgeKind} {rows others : Table String Edge}
    (hrows : ∀ key, rows.get? key = others.get? key) : (s.withEdges edge rows).Same (u.withEdges edge others) := by
  intro t key
  cases t with
  | entities kind =>
      rw [table, table, entities_withEdges, entities_withEdges]
      exact h.entities kind key
  | edges other =>
      by_cases he : edge = other
      · subst he
        rw [table, table, edges_withEdges, edges_withEdges]
        exact hrows key
      · rw [table, table, edges_withEdges_of_ne s he, edges_withEdges_of_ne u he]
        exact h.edges other key

theorem Same.cascade (h : s.Same u) (id : Given) (kind : EntityKind) :
    (s.cascade id kind).1.Same (u.cascade id kind).1 := by
  intro t key
  cases t with
  | entities other =>
      rw [table, table, entities_cascade, entities_cascade]
      exact h.entities other key
  | edges edge => rw [table, table, edges_cascade, edges_cascade, Table.get?_keep, Table.get?_keep, h.edges]

theorem drawId_eq (kind : EntityKind) {asked : Given} (hissued : asked.present = none → s.issued = u.issued) :
    (s.drawId kind asked).1 = (u.drawId kind asked).1 := by
  rw [drawId, drawId]
  cases hasked : asked.present with
  | some id => rfl
  | none => rw [hissued hasked]

theorem WellFormed.create_alike (h : s.WellFormed) (hsame : s.Same u) (now : Instant) {kind : EntityKind}
    {draft : Draft kind} (hid : draft.id.present = none ∨ draft.id.IsText)
    (hissued : draft.id.present = none → s.issued = u.issued) :
    Alike Eq (s.create now draft).answer (u.create now draft).answer ∧
      (s.create now draft).store.Same (u.create now draft).store := by
  have hdrawn : (s.drawId kind draft.id).2.Same (u.drawId kind draft.id).2 := fun t key => by
    rw [table_drawId, table_drawId, hsame]
  have hrows : (s.drawId kind draft.id).2.WellFormed := h.of_same fun t key => by rw [table_drawId]
  have htext := isText_drawId s kind hid
  have hsameId := drawId_eq kind hissued
  cases hs : s.drawId kind draft.id with
  | mk id drawn =>
      cases hu : u.drawId kind draft.id with
      | mk id' drawn' =>
          rw [hs] at hdrawn hrows htext hsameId
          rw [hu] at hdrawn hsameId
          obtain rfl : id = id' := hsameId
          have hrefusal := hrows.createRefusal_eq_of_same hdrawn kind id draft.name
          simp only [Store.create, hs, hu, hrefusal]
          cases drawn'.createRefusal kind id draft.name with
          | some failure => exact ⟨.error failure, hdrawn⟩
          | none =>
              cases now.toText? with
              | none => exact ⟨.error .invalidInstant, hdrawn⟩
              | some stamp =>
                  refine ⟨.ok rfl, ?_⟩
                  have hplaced : (drawn.withPlaceFor id).Same (drawn'.withPlaceFor id) := fun t key => by
                    rw [table_withPlaceFor, table_withPlaceFor, hdrawn]
                  rw [drawn.key_of_isText htext, drawn'.key_of_isText htext]
                  exact hplaced.withEntities fun key => by rw [Table.get?_put, Table.get?_put, hdrawn.entities]

theorem Same.delete_alike (h : s.Same u) (kind : EntityKind) {id : Given} (hid : id.IsText) :
    Alike Eq (s.delete kind id).answer (u.delete kind id).answer ∧
      (s.delete kind id).store.Same (u.delete kind id).store := by
  rw [Store.delete, Store.delete, s.key_of_isText hid, u.key_of_isText hid, h.entities]
  cases (u.entities kind).get? (.value id) with
  | none => exact ⟨.ok rfl, h⟩
  | some row =>
      refine ⟨.ok rfl, Same.cascade (h.withEntities fun key => ?_) id kind⟩
      rw [Table.get?_erase, Table.get?_erase, h.entities]

theorem WellFormed.link_alike (h : s.WellFormed) (hsame : s.Same u) (now : Instant) (edge : EdgeKind)
    (endpoint group : Given) :
    Alike Eq (s.link now edge endpoint group).answer (u.link now edge endpoint group).answer ∧
      (s.link now edge endpoint group).store.Same (u.link now edge endpoint group).store := by
  have hlinked : (s.edges edge).contains (pairKey endpoint group) = (u.edges edge).contains (pairKey endpoint group) :=
    congrArg Option.isSome (hsame.edges edge _)
  simp only [Store.link, h.linkRefusal_eq_of_same hsame, hlinked]
  cases u.linkRefusal edge endpoint group with
  | some failure => exact ⟨.error failure, hsame⟩
  | none =>
      cases (u.edges edge).contains (pairKey endpoint group) with
      | true => exact ⟨.ok rfl, hsame⟩
      | false =>
          cases now.toText? with
          | none => exact ⟨.error .invalidInstant, hsame⟩
          | some stamp =>
              refine ⟨.ok rfl, hsame.withEdges fun key => ?_⟩
              rw [Table.get?_put, Table.get?_put, hsame.edges]

theorem Same.unlink_alike (h : s.Same u) (edge : EdgeKind) (endpoint group : Given) :
    Alike Eq (s.unlink edge endpoint group).answer (u.unlink edge endpoint group).answer ∧
      (s.unlink edge endpoint group).store.Same (u.unlink edge endpoint group).store := by
  rw [Store.unlink, Store.unlink, h.edges]
  cases (u.edges edge).get? (pairKey endpoint group) with
  | none => exact ⟨.ok rfl, h⟩
  | some row =>
      refine ⟨.ok rfl, h.withEdges fun key => ?_⟩
      rw [Table.get?_erase, Table.get?_erase, h.edges]

/-- What is asked of two stores with the same rows cannot tell them apart, and leaves the same rows. Only where an
id is drawn must their sequences be at the same place. -/
theorem WellFormed.answer_alike (h : s.WellFormed) (hsame : s.Same u) (now : Instant) {request : Request}
    (ht : request.Textual) (hissued : request.draws = true → s.issued = u.issued) :
    Alike request.SameRows (s.answer now request).answer (u.answer now request).answer ∧
      (s.answer now request).store.Same (u.answer now request).store := by
  cases request with
  | create kind input =>
      simp only [Store.answer, createAsked]
      cases hpart : input.part "id" with
      | error failure => exact ⟨.error failure, hsame⟩
      | ok id =>
          refine h.create_alike hsame now ht.1 fun hdrawn => hissued ?_
          have hnone : (input.field? "id").present = none := hdrawn
          rw [Request.draws, hpart, hnone]
          rfl
  | delete kind id => exact hsame.delete_alike kind ht
  | link edge endpoint group => exact h.link_alike hsame now edge endpoint group
  | unlink edge endpoint group => exact hsame.unlink_alike edge endpoint group
  | get kind id => exact ⟨.ok (congrFun (h.get?_eq_of_same hsame kind) id), hsame⟩
  | getByName kind name => exact ⟨.ok (h.getByName?_eq_of_same hsame kind name), hsame⟩
  | list kind =>
      have hlist : (s.answer now (.list kind)).answer = (u.answer now (.list kind)).answer :=
        h.list_eq_of_same hsame kind
      rw [hlist]
      exact ⟨.refl (Request.SameRows.refl _) _, hsame⟩
  | groupsOf edge endpoint => exact ⟨.ok (h.groupsOf_perm hsame edge endpoint), hsame⟩
  | endpointsOf edge group => exact ⟨.ok (h.endpointsOf_perm hsame edge group), hsame⟩
  | clientsForSecret secret => exact ⟨.ok (h.clientsForSecret_perm hsame secret), hsame⟩
  | secretPaths client name => exact ⟨h.secretPaths_alike hsame client name, hsame⟩
  | linked edge endpoint group => exact ⟨.ok (congrArg Option.isSome (hsame.edges edge _)), hsame⟩
  | count edge => exact ⟨.ok (congrArg Binary64.ofNat (Table.size_eq (hsame.edges edge))), hsame⟩

end Store

end SecretAccess
