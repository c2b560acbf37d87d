import SecretAccess.Document.Given

namespace SecretAccess.Sql

structure Column where
  table : String
  name : String
  deriving DecidableEq, Repr

structure Join where
  table : String
  column : Column
  equals : Column
  deriving DecidableEq, Repr

structure Condition where
  column : Column
  equals : Document
  deriving DecidableEq, Repr

structure Select where
  columns : List Column
  source : String
  joins : List Join
  conditions : List Condition
  orderBy : Option Column
  limit : Option Nat
  deriving DecidableEq, Repr

inductive IsolationLevel where
  | readUncommitted
  | readCommitted
  | repeatableRead
  | serializable
  | named (name : String)
  deriving DecidableEq, Repr

def IsolationLevel.label : IsolationLevel → String
  | readUncommitted => "read uncommitted"
  | readCommitted => "read committed"
  | repeatableRead => "repeatable read"
  | serializable => "serializable"
  | named name => name

/-- Text in which every value that comes from a caller is a numbered parameter, together with the values of
the parameters. -/
inductive Statement where
  | select (query : Select)
  | count (table : String)
  /-- A column without a value takes its default. An insertion that conflicts on the columns given
  for it does nothing. -/
  | insert (table : String) (values : List (String × Given))
      (conflict returning : List String)
  | delete (table : String) (conditions : List Condition) (returning : List String)
  | begin
  | setIsolation (level : IsolationLevel)
  | commit
  | rollback
  deriving DecidableEq, Repr

def quoted (name : String) : String := "\"" ++ name ++ "\""

def commas (items : List String) : String := String.intercalate ", " items

def Column.qualified (column : Column) : String := quoted column.table ++ "." ++ quoted column.name

def columnList (qualify : Bool) (columns : List Column) : String :=
  commas (columns.map fun c => if qualify then c.qualified else quoted c.name)

def placeholder (n : Nat) : String := s!"${n}"

def Join.text (join : Join) : String :=
  " inner join " ++ quoted join.table ++ " on " ++ join.column.qualified ++ " = " ++
    join.equals.qualified

def comparisons (n : Nat) : List Column → List String
  | [] => []
  | column :: columns => (column.qualified ++ " = " ++ placeholder n) :: comparisons (n + 1) columns

def whereText (columns : List Column) : String :=
  match comparisons 1 columns with
  | [] => ""
  | [comparison] => " where " ++ comparison
  | many => " where (" ++ String.intercalate " and " many ++ ")"

def Select.text (q : Select) : String :=
  "select " ++ columnList (!q.joins.isEmpty) q.columns ++ " from " ++ quoted q.source ++
    String.join (q.joins.map Join.text) ++ whereText (q.conditions.map (·.column)) ++
    (match q.orderBy with
      | some column => " order by " ++ column.qualified ++ " asc"
      | none => "") ++
    (match q.limit with
      | some _ => " limit " ++ placeholder (q.conditions.length + 1)
      | none => "")

def Select.params (q : Select) : List Document :=
  q.conditions.map (·.equals) ++ (q.limit.map fun n => Document.number (.ofNat n)).toList

/-- One placeholder for each value, numbered from `n` on, and the word `default` where there is
none. -/
def valueList (n : Nat) : List Bool → List String
  | [] => []
  | true :: rest => placeholder n :: valueList (n + 1) rest
  | false :: rest => "default" :: valueList n rest

def returningText (columns : List String) : String :=
  if columns.isEmpty then "" else " returning " ++ commas (columns.map quoted)

def conflictText (columns : List String) : String :=
  if columns.isEmpty then ""
  else " on conflict (" ++ String.intercalate "," (columns.map quoted) ++ ") do nothing"

namespace Statement

def text : Statement → String
  | select query => query.text
  | count table => "select count(*) from " ++ quoted table
  | insert table values conflict returning =>
      "insert into " ++ quoted table ++ " (" ++ commas (values.map fun v => quoted v.1) ++
        ") values (" ++ commas (valueList 1 (values.map fun v => v.2.isSome)) ++ ")" ++
        conflictText conflict ++
        returningText returning
  | delete table conditions returning =>
      "delete from " ++ quoted table ++ whereText (conditions.map (·.column)) ++
        returningText returning
  | begin => "begin"
  | setIsolation level => "set transaction isolation level " ++ level.label
  | commit => "commit"
  | rollback => "rollback"

def params : Statement → List Document
  | select query => query.params
  | insert _ values _ _ => values.filterMap (·.2)
  | delete _ conditions _ => conditions.map (·.equals)
  | _ => []

end Statement

end SecretAccess.Sql
