namespace SecretAccess.Schema

inductive ColumnType where
  | text
  | boolean
  | json
  | instant
  deriving DecidableEq, Repr

def ColumnType.sqlName : ColumnType → String
  | text => "text"
  | boolean => "boolean"
  | json => "jsonb"
  | instant => "timestamp with time zone"

inductive ColumnDefault where
  | flag (value : Bool)
  | emptyObject
  | now
  deriving DecidableEq, Repr

structure ColumnDefinition where
  name : String
  type : ColumnType
  notNull : Bool
  primary : Bool
  unique : Bool
  defaultValue : Option ColumnDefault
  deriving DecidableEq, Repr

inductive ReferentialAction where
  | noAction
  | cascade
  deriving DecidableEq, Repr

def ReferentialAction.sqlName : ReferentialAction → String
  | noAction => "no action"
  | cascade => "cascade"

structure ForeignKey where
  column : String
  foreignTable : String
  foreignColumn : String
  onDelete : ReferentialAction
  onUpdate : ReferentialAction
  deriving DecidableEq, Repr

structure IndexDefinition where
  name : String
  columns : List String
  unique : Bool
  deriving DecidableEq, Repr

structure TableDefinition where
  name : String
  columns : List ColumnDefinition
  compositeKey : List String
  foreignKeys : List ForeignKey
  indexes : List IndexDefinition
  deriving DecidableEq, Repr

namespace TableDefinition

def columnNames (table : TableDefinition) : List String :=
  table.columns.map (·.name)

def uniqueName (table : TableDefinition) (column : ColumnDefinition) : String :=
  s!"{table.name}_{column.name}_unique"

def compositeKeyName (table : TableDefinition) : String :=
  String.intercalate "_" (table.name :: table.compositeKey) ++ "_pk"

def foreignKeyName (table : TableDefinition) (key : ForeignKey) : String :=
  s!"{table.name}_{key.column}_{key.foreignTable}_{key.foreignColumn}_fk"

end TableDefinition

namespace ColumnDefinition

def optional (name : String) (type : ColumnType) : ColumnDefinition :=
  ⟨name, type, false, false, false, none⟩

def required (name : String) (type : ColumnType) : ColumnDefinition :=
  ⟨name, type, true, false, false, none⟩

def primaryKey (name : String) (type : ColumnType) : ColumnDefinition :=
  ⟨name, type, true, true, false, none⟩

def asUnique (column : ColumnDefinition) : ColumnDefinition := { column with unique := true }

def withDefault (column : ColumnDefinition) (value : ColumnDefault) : ColumnDefinition :=
  { column with defaultValue := some value }

end ColumnDefinition

end SecretAccess.Schema
