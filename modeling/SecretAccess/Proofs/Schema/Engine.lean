import Mathlib
import SecretAccess.Failure
import SecretAccess.Schema.Tables
import SecretAccess.Sql.Statement

namespace SecretAccess.Schema

open Sql

abbrev Record := List (String × Given)

def Record.value (record : Record) (column : String) : Given := (record.lookup column).join

abbrev Rows := List (String × Record)

def Rows.value (rows : Rows) (column : Column) : Given :=
  (rows.lookup column.table).bind (·.value column.name)

theorem Rows.value_of_lookup {rows : Rows} {table : String} {record : Record} (h : rows.lookup table = some record)
    (column : String) : rows.value ⟨table, column⟩ = record.value column := by
  rw [value, h]
  rfl

theorem Rows.value_self (rows : Rows) (record : Record) (table column : String) :
    Rows.value ((table, record) :: rows) ⟨table, column⟩ = record.value column :=
  value_of_lookup List.lookup_cons_self column

theorem Rows.value_of_ne (rows : Rows) (record : Record) {table : String} {column : Column}
    (h : column.table ≠ table) :
    Rows.value ((table, record) :: rows) column = rows.value column := by
  have hne : (column.table == table) = false := by simpa using h
  rw [value, List.lookup_cons, hne]
  rfl

/-- Null equals nothing, not even null. -/
def equal (a b : Given) : Bool := a.present.isSome && a = b

def Rows.meets (rows : Rows) (conditions : List Condition) : Bool :=
  conditions.all fun condition => equal (rows.value condition.column) (some condition.equals)

theorem Rows.meets_nil (rows : Rows) : rows.meets [] = true := rfl

def ColumnDefault.value (now : Document) : ColumnDefault → Document
  | flag value => .flag value
  | emptyObject => .fields []
  | .now => now

namespace TableDefinition

def keys (table : TableDefinition) : List (String × List String) :=
  ((table.columns.filter (·.primary)).map fun column => (s!"{table.name}_pkey", [column.name])) ++
    (if table.compositeKey.isEmpty then [] else [(table.compositeKeyName, table.compositeKey)]) ++
    ((table.columns.filter (·.unique)).map fun column => (table.uniqueName column, [column.name])) ++
    ((table.indexes.filter (·.unique)).map fun index => (index.name, index.columns))

def fill (table : TableDefinition) (now : Document) (values : Record) : Record :=
  table.columns.map fun column =>
    (column.name, (values.value column.name).or (column.defaultValue.map (·.value now)))

/-- A row that a table can have: nothing stands for null, and only where null may stand. -/
def Admits (table : TableDefinition) (record : Record) : Prop :=
  ∀ column ∈ table.columns, (record.value column.name).present = record.value column.name ∧
    (column.notNull = true → (record.value column.name).isSome = true)

instance (table : TableDefinition) (record : Record) : Decidable (table.Admits record) :=
  inferInstanceAs (Decidable (∀ column ∈ table.columns, _ ∧ _))

end TableDefinition

def agree (columns : List String) (record other : Record) : Bool :=
  columns.all fun column => equal (record.value column) (other.value column)

def follows (gone : Rows) (table : TableDefinition) (record : Record) : Bool :=
  table.foreignKeys.any fun key => key.onDelete = .cascade && gone.any fun other =>
    other.1 = key.foreignTable && equal (record.value key.column) (other.2.value key.foreignColumn)

structure Relation where
  definition : TableDefinition
  records : List Record

def Relation.takenKey? (relation : Relation) (record : Record) : Option String :=
  (relation.definition.keys.find? fun key => relation.records.any (agree key.2 record)).map (·.1)

abbrev Database := List Relation

namespace Database

def records (db : Database) (table : String) : List Record :=
  db.flatMap fun relation => if relation.definition.name = table then relation.records else []

def update (db : Database) (rows : Relation → List Record) : Database :=
  db.map fun relation => { relation with records := rows relation }

def change (db : Database) (table : String) (rows : List Record → List Record) : Database :=
  db.update fun relation => if relation.definition.name = table then rows relation.records else relation.records

def without (db : Database) (test : TableDefinition → Record → Bool) : Database :=
  db.update fun relation => relation.records.filter fun record => !test relation.definition record

def matching (db : Database) (test : TableDefinition → Record → Bool) : Rows :=
  db.flatMap fun relation =>
    (relation.records.filter (test relation.definition)).map (relation.definition.name, ·)

def dangling? (db : Database) (table : TableDefinition) (record : Record) : Option ForeignKey :=
  table.foreignKeys.find? fun key =>
    (record.value key.column).present.isSome &&
      !(db.records key.foreignTable).any fun other =>
        equal (record.value key.column) (other.value key.foreignColumn)

def broken? (db : Database) : Option (TableDefinition × ForeignKey) :=
  db.findSome? fun relation => relation.records.findSome? fun record =>
    (db.dangling? relation.definition record).map (relation.definition, ·)

def size (db : Database) : Nat := (db.map (·.records.length)).sum

theorem size_without (db : Database) (test : TableDefinition → Record → Bool) :
    (db.without test).size + (db.matching test).length = db.size := by
  induction db with
  | nil => rfl
  | cons relation db ih =>
      have hsplit := @List.length_eq_length_filter_add _ relation.records (test relation.definition)
      simp only [without, update, matching, size, List.map_cons, List.sum_cons, List.flatMap_cons, List.length_append,
        List.length_map] at ih ⊢
      omega

/-- Deletes what refers to rows that are gone, then what refers to these, until nothing does. -/
def follow (db : Database) (gone : Rows) : Database :=
  if _h : (db.matching (follows gone)).isEmpty then db
  else (db.without (follows gone)).follow (db.matching (follows gone))
termination_by db.size
decreasing_by
  have hsize := db.size_without (follows gone)
  have hpos := List.length_pos_iff.2 (mt List.isEmpty_iff.2 _h)
  omega

/-- A row that conflicts is not inserted; otherwise keys are checked, in their order, and references after them. -/
def insert (db : Database) (now : Document) (relation : Relation) (values : Record) (conflict : List String) :
    Except Failure (Nat × Database) :=
  let table := relation.definition
  let record := table.fill now values
  let grown := db.change table.name (· ++ [record])
  if !conflict.isEmpty && relation.records.any (agree conflict record) then .ok (0, db)
  else match relation.takenKey? record with
    | some key => .error (.duplicate key)
    | none => match grown.dangling? table record with
        | some key => .error (.dangling table.name (table.foreignKeyName key))
        | none => .ok (1, grown)

def referenced (table : String) (referring : TableDefinition × ForeignKey) : Failure :=
  let constraint := referring.1.foreignKeyName referring.2
  .foreignKeyViolation constraint
    (s!"update or delete on table \"{table}\" violates foreign key constraint \"{constraint}\" on table " ++
      s!"\"{referring.1.name}\"")

def delete (db : Database) (relation : Relation) (conditions : List Condition) : Except Failure (Nat × Database) :=
  let table := relation.definition.name
  let test (record : Record) : Bool := Rows.meets [(table, record)] conditions
  let gone := (relation.records.filter test).map (table, ·)
  let left := (db.change table (·.filter (!test ·))).follow gone
  match left.broken? with
  | some referring => .error (referenced table referring)
  | none => .ok (gone.length, left)

def unknownTable (table : String) : Failure :=
  .store "UNDEFINED_TABLE" "42P01" s!"relation \"{table}\" does not exist"

/-- A database goes by its table definitions and by nothing else. Values are not checked for their types. -/
def execute (db : Database) (now : Document) : Statement → Except Failure (Nat × Database)
  | .insert table values conflict _ => match db.find? (·.definition.name = table) with
      | some relation => db.insert now relation values conflict
      | none => .error (unknownTable table)
  | .delete table conditions _ => match db.find? (·.definition.name = table) with
      | some relation => db.delete relation conditions
      | none => .error (unknownTable table)
  | _ => .ok (0, db)

section

variable {db : Database} {test : TableDefinition → Record → Bool} {gone : Rows}

theorem matching_eq_nil_iff :
    db.matching test = [] ↔
      ∀ relation ∈ db, ∀ record ∈ relation.records, test relation.definition record = false := by
  simp [matching]

theorem without_eq_self (h : db.matching test = []) : db.without test = db := by
  have hkept : ∀ relation ∈ db, Relation.mk relation.definition
      (relation.records.filter fun record => !test relation.definition record) = relation := by
    intro relation hrelation
    have hall : (relation.records.filter fun record => !test relation.definition record) = relation.records := by
      apply List.filter_eq_self.2
      intro record hrecord
      rw [matching_eq_nil_iff.1 h relation hrelation record hrecord]
      rfl
    rw [hall]
  rw [without, update, List.map_congr_left hkept, List.map_id']

theorem follow_eq_self (h : db.matching (follows gone) = []) : db.follow gone = db := by
  rw [follow, dif_pos (List.isEmpty_iff.2 h)]

theorem follow_once (h : (db.without (follows gone)).matching (follows (db.matching (follows gone))) = []) :
    db.follow gone = db.without (follows gone) := by
  by_cases hnone : db.matching (follows gone) = []
  · rw [follow_eq_self hnone, without_eq_self hnone]
  · rw [follow, dif_neg (mt List.isEmpty_iff.1 hnone), follow_eq_self h]

theorem delete_eq_ok {relation : Relation} {conditions : List Condition} {left : Database}
    (hgone : (relation.records.filter fun record => Rows.meets [(relation.definition.name, record)] conditions).map
      (relation.definition.name, ·) = gone)
    (hleft : (db.change relation.definition.name (·.filter fun record =>
      !Rows.meets [(relation.definition.name, record)] conditions)).follow gone = left)
    (hwhole : left.broken? = none) : db.delete relation conditions = .ok (gone.length, left) := by
  simp only [delete, hgone, hleft, hwhole]

end

end Database

end SecretAccess.Schema
