import Mathlib.Data.List.Basic
import SecretAccess.Number.Binary64
import SecretAccess.Proofs.Schema.Engine
import SecretAccess.Proofs.Text.CodePoints

namespace SecretAccess.Schema

open Sql

def Rows.project (rows : Rows) (columns : List Column) : List Document :=
  columns.map fun column => (rows.value column).getD .null

theorem Rows.project_append (rows : Rows) (columns others : List Column) :
    rows.project (columns ++ others) = rows.project columns ++ rows.project others :=
  List.map_append

namespace Database

def extensions (db : Database) (join : Join) (rows : Rows) : List Rows :=
  ((db.records join.table).map fun record => (join.table, record) :: rows).filter fun extended =>
    equal (extended.value join.column) (extended.value join.equals)

def joined (db : Database) : List Join → Rows → List Rows
  | [], rows => [rows]
  | join :: joins, rows => (db.extensions join rows).flatMap (db.joined joins)

def found (db : Database) (query : Select) (record : Record) : List (List Document) :=
  ((db.joined query.joins [(query.source, record)]).filter (·.meets query.conditions)).map (·.project query.columns)

def evaluate (db : Database) (query : Select) : List (List Document) :=
  (db.records query.source).flatMap (db.found query)

/-- The responses that a statement can get. Rows come in any order where none is asked for, as many as a limit allows;
a count comes as a number or as its digits. -/
inductive Answers (db : Database) : Statement → List (List Document) → Prop
  | select {query : Select} (unordered : query.orderBy = none) {rows : List (List Document)}
      (found : rows.Perm (db.evaluate query)) :
      Answers db (.select query) ((query.limit.map rows.take).getD rows)
  | number (table : String) : Answers db (.count table) [[.number (.ofNat (db.records table).length)]]
  | digits (table : String) : Answers db (.count table) [[.text (toString (db.records table).length)]]

def matched (db : Database) (query : Select) : List Rows :=
  (db.records query.source).flatMap fun record =>
    (db.joined query.joins [(query.source, record)]).filter (·.meets query.conditions)

theorem evaluate_eq_map_matched (db : Database) (query : Select) :
    db.evaluate query = (db.matched query).map (·.project query.columns) := by
  rw [evaluate, matched, List.map_flatMap]
  rfl

/-- The responses that a query can get which asks for an order: texts come in the order of their code points. -/
inductive Lists (db : Database) : Statement → List (List Document) → Prop
  | select {query : Select} {column : Column} (ordered : query.orderBy = some column) {rows : List Rows}
      (found : rows.Perm (db.matched query))
      (ascending : rows.Pairwise fun earlier later => ∀ s t, earlier.value column = some (.text s) →
        later.value column = some (.text t) → (Text.compareCodePoints s t).isLE = true) :
      Lists db (.select query) (((query.limit.map rows.take).getD rows).map (·.project query.columns))

theorem joined_one (db : Database) (join : Join) (rows : Rows) : db.joined [join] rows = db.extensions join rows :=
  List.flatMap_singleton' _

theorem joined_cons {α β : Type} {db : Database} {join : Join} {joins : List Join} {rows : Rows} {found : List α}
    {extended : α → Rows} {further : α → List β} {last : α × β → Rows}
    (hfound : db.extensions join rows = found.map extended)
    (hfurther : ∀ a ∈ found, db.joined joins (extended a) = (further a).map fun b => last (a, b)) :
    db.joined (join :: joins) rows = (found.flatMap fun a => (further a).map (Prod.mk a)).map last := by
  rw [joined, hfound, List.flatMap_map, List.map_flatMap]
  apply List.flatMap_congr
  intro a ha
  rw [hfurther a ha, List.map_map]
  rfl

theorem found_eq {α : Type} {db : Database} {query : Select} {record : Record} {found : List α} {rows : α → Rows}
    (test : α → Bool) {columns : α → List Document}
    (hjoined : db.joined query.joins [(query.source, record)] = found.map rows)
    (hmeets : ∀ a ∈ found, (rows a).meets query.conditions = test a)
    (hcolumns : ∀ a ∈ found, (rows a).project query.columns = columns a) :
    db.found query record = (found.filter test).map columns := by
  have hfiltered : found.filter ((·.meets query.conditions) ∘ rows) = found.filter test := List.filter_congr hmeets
  rw [Database.found, hjoined, List.filter_map, List.map_map, hfiltered]
  exact List.map_congr_left fun a ha => hcolumns a (List.mem_of_mem_filter ha)

end Database

end SecretAccess.Schema
