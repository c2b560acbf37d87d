import SecretAccess.Access.Rows
import SecretAccess.Postgres.Connection
import SecretAccess.Proofs.Access.Listing

namespace SecretAccess

variable {α : Type}

def Named (id name : α → Given) (rows : List α) : Prop :=
  ∀ row ∈ rows, (id row).standsAlone = false ∧ (name row).IsText

instance (id name : α → Given) (rows : List α) : Decidable (Named id name rows) :=
  inferInstanceAs (Decidable (∀ row ∈ rows, _ ∧ _))

/-- Rows by name; those of one name in the order in which their ids come in a list. -/
def ByName (id name : α → Given) (ids : List Given) (rows : List α) : Prop :=
  rows.Pairwise fun a b => (name a).Below (name b) ∨ name a = name b ∧ ids.idxOf (id a) < ids.idxOf (id b)

structure FirstByName (id name : α → Given) (rows listed : List α) : Prop where
  first : ∀ k row, row ∈ listed ∧ id row = k ↔ rows.find? (id · = k) = some row
  once : (listed.map id).Nodup
  order : ByName id name (rows.map id) listed

section

variable {id name : α → Given} {rows listed : List α}

theorem Named.ids (h : Named id name rows) : ∀ row ∈ rows, (id row).standsAlone = false :=
  fun row hrow => (h row hrow).1

theorem Named.names (h : Named id name rows) : ∀ row ∈ rows, (name row).IsText :=
  fun row hrow => (h row hrow).2

theorem idxOf_firstOfEach (id : α → Given) (rows : List α) :
    (firstOfEach id rows).Pairwise fun a b => (rows.map id).idxOf (id a) < (rows.map id).idxOf (id b) := by
  have hids := Order.idxOf_eraseDups (rows.map id)
  rwa [← map_firstOfEach, List.pairwise_map] at hids

theorem FirstByName.subset (h : FirstByName id name rows listed) : listed ⊆ rows :=
  fun row hrow => List.mem_of_find?_eq_some ((h.first _ row).1 ⟨hrow, rfl⟩)

theorem FirstByName.again (h : FirstByName id name rows listed) (hnamed : Named id name rows) :
    sortByName (fun row => .ok (name row)) (uniqueById id listed) = .ok listed := by
  have hlisted : Named id name listed := fun row hrow => hnamed row (h.subset hrow)
  rw [uniqueById_eq hlisted.ids, firstOfEach_of_nodup h.once]
  exact sortByName_of_pairwise hlisted.names (h.order.imp fun hab => hab.imp_right And.left)

theorem Named.exists_listed (h : Named id name rows) :
    ∃ listed, sortByName (fun row => .ok (name row)) (uniqueById id rows) = .ok listed ∧
      FirstByName id name rows listed := by
  have hkept : Named id name (firstOfEach id rows) := fun row hrow => h row (firstOfEach_subset hrow)
  obtain ⟨listed, hlisted, hperm, hstable⟩ := sortByName_stable hkept.names (idxOf_firstOfEach id rows)
  rw [uniqueById_eq h.ids]
  refine ⟨listed, hlisted, fun k row => ?_, (hperm.map id).nodup_iff.2 nodup_firstOfEach, hstable⟩
  rw [hperm.mem_iff, mem_firstOfEach]
  constructor
  · rintro ⟨hfound, rfl⟩
    exact hfound
  · intro hfound
    have hid := key_eq_of_find? hfound
    exact ⟨hid ▸ hfound, hid⟩

end

namespace Rows

theorem nameText?_nameOf (row : Given) : nameText? nameOf row = nameText? (fun row => .ok (row.field? "name")) row := by
  match row with
  | none | some .null => rfl
  | some (.flag _) | some (.number _) | some (.text _) | some (.list _) | some (.fields _) => rfl

theorem sortByName_nameOf {row : α → Given} {rows : List α} (h : ∀ a ∈ rows, ((row a).field? "name").IsText) :
    SecretAccess.sortByName (fun a => nameOf (row a)) rows =
      SecretAccess.sortByName (fun a => .ok ((row a).field? "name")) rows := by
  have htext : (nameText? fun a => nameOf (row a)) = nameText? fun a => .ok ((row a).field? "name") :=
    funext fun a => nameText?_nameOf (row a)
  rw [SecretAccess.sortByName, SecretAccess.sortByName, htext, if_pos (all_nameText h), if_pos (all_nameText h)]

theorem uniqueById_eq {rows : List Document}
    (h : Named (fun row => Given.field? "id" (some row)) (fun row => Given.field? "name" (some row)) rows) :
    uniqueById rows = .ok (SecretAccess.uniqueById (fun row => Given.field? "id" (some row)) rows) := by
  have hids : rows.mapM (fun row => do return (← Given.part "id" (some row), row)) =
      (.ok (rows.map fun row => (Given.field? "id" (some row), row)) : Except Failure _) := by
    apply mapM_eq_ok_map
    intro row hrow
    rw [Given.part_eq_ok (h.names row hrow).isSome]
    rfl
  have hplaced : ∀ pair ∈ rows.map fun row => (Given.field? "id" (some row), row), pair.1.standsAlone = false := by
    intro pair hpair
    obtain ⟨row, hrow, rfl⟩ := List.mem_map.1 hpair
    exact h.ids row hrow
  rw [uniqueById, hids]
  change Except.ok _ = _
  rw [SecretAccess.uniqueById_eq hplaced, SecretAccess.uniqueById_eq h.ids, firstOfEach_map, List.map_map]
  exact congrArg Except.ok (List.map_id _)

end Rows

section

variable {m : Type → Type} [Monad m] [MonadExcept Failure m] {kind : EntityKind}

def ListsFirst {β : Type} (asked : m (List (Entity kind))) (shown : List (Entity kind) → β) (answered : m β) : Prop :=
  ∃ rest : List (Entity kind) → m β, answered = asked >>= rest ∧
    ∀ rows, Named (·.id) (·.name) rows →
      ∃ listed, FirstByName (·.id) (·.name) rows listed ∧ rest rows = pure (shown listed)

theorem listsFirst_distinctByName (asked : m (List (Entity kind))) :
    ListsFirst asked (fun listed => listed) (do ofExcept (distinctByName (← asked))) := by
  refine ⟨_, rfl, fun rows hrows => ?_⟩
  obtain ⟨listed, hlisted, hfirst⟩ := hrows.exists_listed
  refine ⟨listed, hfirst, ?_⟩
  rw [distinctByName, hlisted]
  rfl

theorem listsFirst_sanitized [LawfulMonad m] (gateway : Gateway m) (group : Given) :
    ListsFirst (gateway.ask (.endpointsOf .grant group)) (List.map fun secret => ⟨secret.copy, []⟩)
      (runQuery gateway (.sanitizedForGroup group)) := by
  refine ⟨_, rfl, fun rows hrows => ?_⟩
  obtain ⟨listed, hlisted, hfirst⟩ := hrows.exists_listed
  refine ⟨listed, hfirst, ?_⟩
  have hshown : listed.mapM (fun secret : Secret => sanitize secret.copy []) =
      .ok (listed.map fun secret => ⟨secret.copy, []⟩) := by
    apply mapM_eq_ok_map
    intro secret _
    rw [sanitize_of_texts _ (by simp), ascending_nil]
  rw [distinctByName, hlisted]
  change pure listed >>= _ = _
  rw [pure_bind, hshown]
  rfl

end

/-- Rows are brought down to the first of each id, by name, rows of one name in the order in which their ids came;
to do it again changes nothing. All queries for entities answer with this for the rows that their gateway gives. -/
theorem first_by_name :
    (∀ (α : Type) (id name : α → Given) (rows : List α), Named id name rows →
      ∃ listed, sortByName (fun row => .ok (name row)) (uniqueById id rows) = .ok listed ∧
        FirstByName id name rows listed ∧
        sortByName (fun row => .ok (name row)) (uniqueById id listed) = .ok listed) ∧
    (∀ rows : List Document, let field (name : String) (row : Document) : Given := Given.field? name (some row)
      Named (field "id") (field "name") rows →
        ∃ listed, (do Rows.sortByName (← Rows.uniqueById rows)) = .ok listed ∧
          FirstByName (field "id") (field "name") rows listed ∧
          (do Rows.sortByName (← Rows.uniqueById listed)) = .ok listed) ∧
    ∀ (m : Type → Type) [Monad m] [LawfulMonad m] [MonadExcept Failure m] (gateway : Gateway m) (id : Given),
      ListsFirst (gateway.ask (.groupsOf .grant id)) (fun listed => listed)
        (runQuery gateway (.groupsForSecret id)) ∧
      ListsFirst (gateway.ask (.groupsOf .membership id)) (fun listed => listed)
        (runQuery gateway (.groupsForClient id)) ∧
      ListsFirst (gateway.ask (.endpointsOf .membership id)) (fun listed => listed)
        (runQuery gateway (.clientsForGroup id)) ∧
      ListsFirst (gateway.ask (.clientsForSecret id)) (fun listed => listed)
        (runQuery gateway (.clientsForSecret id)) ∧
      ListsFirst (gateway.ask (.endpointsOf .grant id)) (List.map fun secret => ⟨secret.copy, []⟩)
        (runQuery gateway (.sanitizedForGroup id)) := by
  refine ⟨?_, ?_, ?_⟩
  · intro α id name rows h
    obtain ⟨listed, hlisted, hfirst⟩ := h.exists_listed
    exact ⟨listed, hlisted, hfirst, hfirst.again h⟩
  · intro rows field h
    obtain ⟨listed, hlisted, hfirst⟩ := h.exists_listed
    have hkept : Named (field "id") (field "name") listed := fun row hrow => h row (hfirst.subset hrow)
    have hreduce {some : List Document} (hsome : Named (field "id") (field "name") some) :
        (do Rows.sortByName (← Rows.uniqueById some)) =
          sortByName (fun row => .ok (field "name" row)) (uniqueById (field "id") some) := by
      have hunique := uniqueById_eq hsome.ids
      rw [Rows.uniqueById_eq hsome]
      apply Rows.sortByName_nameOf
      rw [hunique]
      exact fun row hrow => hsome.names row (firstOfEach_subset hrow)
    exact ⟨listed, (hreduce h).trans hlisted, hfirst, (hreduce hkept).trans (hfirst.again h)⟩
  · intro m _ _ _ gateway id
    exact ⟨listsFirst_distinctByName _, listsFirst_distinctByName _, listsFirst_distinctByName _,
      listsFirst_distinctByName _, listsFirst_sanitized gateway id⟩

namespace Postgres

/-- Two groups of one name, one of which comes once more and not alike, and a third one. -/
def lookalikes : List Row :=
  let row (id name description : String) : Row := [.text id, .text name, .text description, .text "\x7b\x7d",
    .text "2026-01-01T00:00:00.000Z", .text "a", .text "2026-01-01T00:00:00.000Z", .text "a"]
  [row "h" "web" "", row "g" "web" "first", row "i" "ops" "", row "g" "all" "second"]

def answering : Connection := ⟨0, 0, [.rows lookalikes], [], .silent, [], []⟩

def documents : List Document :=
  let row (id name : String) : Document := .fields [("id", .text id), ("name", .text name)]
  [row "h" "web", row "g" "web", row "i" "ops", row "g" "all"]

theorem first_by_name_lookalikes :
    ∃ groups : List Group, lookalikes.mapM (entityOf .group) = .ok groups ∧ Named (·.id) (·.name) groups ∧
      (∃ listed, sortByName (fun row => .ok row.name) (uniqueById (·.id) groups) = .ok listed ∧
        FirstByName (·.id) (·.name) groups listed ∧
        sortByName (fun row => .ok row.name) (uniqueById (·.id) listed) = .ok listed) ∧
      (∃ listed, (do Rows.sortByName (← Rows.uniqueById documents)) = .ok listed ∧
        FirstByName (Given.field? "id" <| some ·) (Given.field? "name" <| some ·) documents listed ∧
        (do Rows.sortByName (← Rows.uniqueById listed)) = .ok listed) ∧
      ∃ listed c, runQuery gateway (.groupsForSecret (some "s")) answering = (.ok listed, c) ∧
        FirstByName (·.id) (·.name) groups listed := by
  have hread : (lookalikes.mapM (entityOf .group)).toOption.any fun groups =>
      decide (Named (·.id) (·.name) groups) := by decide +kernel
  cases hgroups : lookalikes.mapM (entityOf .group) with
  | error failure =>
      rw [hgroups] at hread
      cases hread
  | ok groups =>
      rw [hgroups] at hread
      have hnamed : Named (·.id) (·.name) groups := of_decide_eq_true hread
      obtain ⟨rest, hrun, hrest⟩ := (first_by_name.2.2 ConnectionM gateway (some "s")).1
      obtain ⟨listed, hfirst, hanswer⟩ := hrest groups hnamed
      let sent : Connection := { answering with sent := [selectGroupsOf .grant (some "s")], responses := [] }
      have hasked : gateway.ask (.groupsOf .grant (some "s")) answering = (.ok groups, sent) :=
        congrArg (·, sent) hgroups
      refine ⟨groups, rfl, hnamed, first_by_name.1 Group (·.id) (·.name) groups hnamed,
        first_by_name.2.1 documents (by decide), listed, sent, ?_, hfirst⟩
      rw [hrun]
      change ExceptT.bindCont rest (gateway.ask (.groupsOf .grant (some "s")) answering).1
        (gateway.ask (.groupsOf .grant (some "s")) answering).2 = _
      rw [hasked]
      exact congrFun hanswer sent

end Postgres

end SecretAccess
