import SecretAccess.Proofs.Postgres.Reads

namespace SecretAccess

open Schema Postgres

variable {shown : Timestamp → Document} {kind : EntityKind}

def Entity.nameText (row : Entity kind) : String := row.name.text?.getD ""

theorem Given.IsText.eq_some {name : Given} (h : name.IsText) : name = some (.text (name.text?.getD "")) := by
  obtain ⟨text, rfl⟩ := h
  rfl

namespace Store

variable {s : Store}

theorem matched_selectEntity {query : Sql.Select} {order : Option Sql.Column}
    (hquery : selectEntity kind [] order = .select query) :
    (s.database shown).matched query =
      (s.entities kind).values.map fun row => [(kind.tableName, row.record shown)] := by
  cases hquery
  rw [Database.matched, records_entities, records_entityRelation, List.flatMap_map, List.map_eq_flatMap]
  rfl

variable (h : s.WellFormed)

include h

theorem WellFormed.name_eq {row : Entity kind} (hrow : row ∈ (s.entities kind).values) :
    row.name = some (.text row.nameText) :=
  (h.isText hrow).2.eq_some

theorem WellFormed.exists_kept (kind : EntityKind) :
    ∃ kept, s.list kind = .ok kept ∧ kept.Perm (s.entities kind).values ∧
      kept.Pairwise fun a b => Text.compareUnits a.nameText b.nameText = .lt := by
  obtain ⟨kept, hkept, hperm, hbelow⟩ := h.exists_list kind
  refine ⟨kept, hkept, hperm, hbelow.imp ?_⟩
  rintro a b ⟨s, t, hs, ht, hlt⟩
  rwa [Entity.nameText, Entity.nameText, hs, ht]

theorem WellFormed.nodup_nameTexts (kind : EntityKind) : ((s.entities kind).values.map Entity.nameText).Nodup := by
  obtain ⟨kept, _, hperm, hunits⟩ := h.exists_kept kind
  rw [← (hperm.map _).nodup_iff, List.Nodup, List.pairwise_map]
  refine hunits.imp fun {a b} hlt heq => ?_
  have hself : Text.compareUnits a.nameText a.nameText = .eq := Std.ReflCmp.compare_self
  rw [heq] at hself hlt
  cases hlt.symm.trans hself

end Store

def Postgres.selectByName (kind : EntityKind) : Sql.Statement :=
  selectEntity kind [] (some (entityColumn kind "name"))

/-- A connection lists these rows, whichever response to its one statement the database gives. -/
def Schema.Database.ListedAs (db : Database) (kind : EntityKind) (listed : List (Entity kind)) : Prop :=
  (∃ rows, db.Lists (selectByName kind) rows) ∧
    ∀ (c : Connection) (rows : List Row), db.Lists (selectByName kind) rows → c.responses.head? = some (.rows rows) →
      Postgres.answer (.list kind) c = (.ok listed, c.asked (selectByName kind))

namespace Store

variable {s : Store}

theorem lists_of_ascending {listed : List (Entity kind)} (hperm : listed.Perm (s.entities kind).values)
    (hpoints : listed.Pairwise fun a b => Text.compareCodePoints a.nameText b.nameText = .lt) :
    (s.database shown).Lists (selectByName kind) (listed.map (·.columns shown)) := by
  have hproject : listed.map (·.columns shown) =
      (listed.map fun row => [(kind.tableName, row.record shown)]).map (Rows.project · (entityColumns kind)) := by
    rw [List.map_map]
    exact List.map_congr_left fun row _ => (project_entityColumns List.lookup_cons_self).symm
  rw [hproject]
  refine .select rfl ?_ (List.pairwise_map.2 (hpoints.imp ?_))
  · rw [matched_selectEntity rfl]
    exact hperm.map _
  · intro a b hlt s t hs ht
    rw [value_entityColumn List.lookup_cons_self, Entity.value_name] at hs ht
    rw [Entity.nameText, Entity.nameText, hs, ht] at hlt
    exact Ordering.isLE_of_eq_lt hlt

variable (h : s.WellFormed)

include h

theorem WellFormed.exists_of_lists {rows : List Row} (hlists : (s.database shown).Lists (selectByName kind) rows) :
    ∃ listed : List (Entity kind), rows = listed.map (·.columns shown) ∧ listed.Perm (s.entities kind).values ∧
      listed.Pairwise fun a b => Text.compareCodePoints a.nameText b.nameText = .lt := by
  cases hlists with
  | @select _ column ordered found hperm ascending =>
      cases ordered
      have hfound : Relation.Comp (· = List.map (fun row : Entity kind => [(kind.tableName, row.record shown)]) ·)
          List.Perm found (s.entities kind).values := by
        rw [List.eq_map_comp_perm]
        exact hperm.trans (.of_eq (matched_selectEntity rfl))
      obtain ⟨listed, rfl, hlisted⟩ := hfound
      refine ⟨listed, ?_, hlisted, ?_⟩
      · rw [Option.map_none, Option.getD_none, List.map_map]
        exact List.map_congr_left fun row _ => project_entityColumns List.lookup_cons_self
      · apply Text.ascending_of_isLE
        · refine (List.pairwise_map.1 ascending).imp_of_mem fun {a b} ha hb hle => ?_
          apply hle <;> rw [value_entityColumn List.lookup_cons_self, Entity.value_name]
          · exact h.name_eq (hlisted.mem_iff.1 ha)
          · exact h.name_eq (hlisted.mem_iff.1 hb)
        · exact (hlisted.map _).nodup_iff.2 (h.nodup_nameTexts kind)

theorem WellFormed.listedAs (hback : ∀ row ∈ (s.entities kind).values, row.ComesBack shown)
    {listed : List (Entity kind)} (hperm : listed.Perm (s.entities kind).values)
    (hpoints : listed.Pairwise fun a b => Text.compareCodePoints a.nameText b.nameText = .lt) :
    (s.database shown).ListedAs kind listed := by
  refine ⟨⟨_, lists_of_ascending hperm hpoints⟩, fun c rows hlists hrows => ?_⟩
  obtain ⟨others, rfl, hothers, hpoints'⟩ := h.exists_of_lists hlists
  have hsame : others = listed := Text.eq_of_ascending (hothers.trans hperm.symm) hpoints' hpoints
  have hdecode : ∀ row ∈ others, entityOf kind (row.columns shown) = .ok row := by
    intro row hrow
    have hstored := hothers.mem_iff.1 hrow
    have hread := (hback row hstored).entityOf_columns (h.copy_eq hstored) []
    rwa [List.append_nil] at hread
  have hread := mapM_columns hdecode
  rw [← hsame]
  exact (send_bind hrows _ _).trans (congrArg (·, c.asked (selectByName kind)) hread)

end Store

namespace Postgres

/-- The rows of a kind are listed in memory by the code units of their names, and over a connection by the code points.
Both lists are the same exactly if no two of the names cross. -/
theorem list_eq_iff {s : Store} (h : s.WellFormed) (kind : EntityKind)
    (hback : ∀ row ∈ (s.entities kind).values, row.ComesBack shown) (now : Instant) :
    ∃ kept listed : List (Entity kind),
      (s.answer now (.list kind)).answer = .ok kept ∧ kept.Perm (s.entities kind).values ∧
      (kept.Pairwise fun a b => Text.compareUnits a.nameText b.nameText = .lt) ∧
      (s.database shown).ListedAs kind listed ∧ listed.Perm (s.entities kind).values ∧
      (listed.Pairwise fun a b => Text.compareCodePoints a.nameText b.nameText = .lt) ∧
      (listed = kept ↔ ∀ row ∈ (s.entities kind).values, ∀ other ∈ (s.entities kind).values,
        ¬Text.Crosses row.nameText other.nameText) := by
  obtain ⟨kept, hkept, hperm, hunits⟩ := h.exists_kept kind
  obtain ⟨listed, hlisted, hpoints⟩ : ∃ listed : List (Entity kind), listed.Perm (s.entities kind).values ∧
      listed.Pairwise fun a b => Text.compareCodePoints a.nameText b.nameText = .lt :=
    ⟨_, List.mergeSort_perm _ _, Text.mergeSort_ascending (h.nodup_nameTexts kind)⟩
  exact ⟨kept, listed, hkept, hperm, hunits, h.listedAs hback hlisted hpoints, hlisted, hpoints,
    Text.eq_iff_not_crosses hlisted hperm hpoints hunits⟩

def clientsNamed (first second : String) : Store :=
  let create (id name : String) : Event :=
    .step (.call .autocommit (.request (.create .client
      (some (.fields [("id", .text id), ("name", .text name), ("createdBy", .text "ops")])))))
  ((Queue.make 123 true).run [create "c" first, create "d" second]).session.store

theorem comesBack_of_stamps {rows : List (Entity kind)}
    (h : ∀ row ∈ rows, (entityTable kind).Admits (row.record spaced) ∧ row.createdAt = "1970-01-01T00:00:00.123Z" ∧
      row.updatedAt = "1970-01-01T00:00:00.123Z") : ∀ row ∈ rows, row.ComesBack spaced := by
  have hread : timestamp (some (spaced "1970-01-01T00:00:00.123Z")) = .ok "1970-01-01T00:00:00.123Z" := by rfl
  intro row hrow
  obtain ⟨hadmitted, hcreated, hupdated⟩ := h row hrow
  exact ⟨hadmitted, hcreated ▸ hread, hupdated ▸ hread⟩

theorem list_eq_iff_beyond :
    let s := clientsNamed "😀" "ci"
    s.WellFormed ∧ (∀ row ∈ (s.entities .client).values, row.ComesBack spaced) ∧
      ∃ kept : List Client, (s.answer 0 (.list .client)).answer = .ok kept ∧
        (s.database spaced).ListedAs .client kept := by
  have hwell : (clientsNamed "😀" "ci").WellFormed := (Queue.sound_run (Queue.make_sound 123 true) (by decide)).rows
  have hback : ∀ row ∈ ((clientsNamed "😀" "ci").entities .client).values, row.ComesBack spaced :=
    comesBack_of_stamps (by decide +kernel)
  obtain ⟨kept, listed, hkept, _, _, hlisted, _, _, hiff⟩ := list_eq_iff hwell .client hback 0
  have hsame : listed = kept := hiff.2 (by decide +kernel)
  exact ⟨hwell, hback, kept, hkept, hsame ▸ hlisted⟩

/-- Of two clients the store lists first the one whose name is beyond the basic plane, and a database the other one. -/
theorem list_reversed :
    let s := clientsNamed "\uE000" "😀"
    s.WellFormed ∧ (∀ row ∈ (s.entities .client).values, row.ComesBack spaced) ∧
      (s.entities .client).values.map Entity.nameText = ["\uE000", "😀"] ∧
      (s.answer 0 (.list .client)).answer = .ok (s.entities .client).values.reverse ∧
      (s.database spaced).ListedAs .client (s.entities .client).values ∧
      (s.entities .client).values ≠ (s.entities .client).values.reverse := by
  have hwell : (clientsNamed "\uE000" "😀").WellFormed := (Queue.sound_run (Queue.make_sound 123 true) (by decide)).rows
  have hback : ∀ row ∈ ((clientsNamed "\uE000" "😀").entities .client).values, row.ComesBack spaced :=
    comesBack_of_stamps (by decide +kernel)
  obtain ⟨kept, hkept, hperm, hunits⟩ := hwell.exists_kept .client
  have hreversed : kept = ((clientsNamed "\uE000" "😀").entities .client).values.reverse :=
    Text.eq_of_ascending (hperm.trans (List.reverse_perm _).symm) hunits (by decide +kernel)
  exact ⟨hwell, hback, by decide +kernel, hreversed ▸ hkept, hwell.listedAs hback (.refl _) (by decide +kernel),
    by decide +kernel⟩

end Postgres

end SecretAccess
