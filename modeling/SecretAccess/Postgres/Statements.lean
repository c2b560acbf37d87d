import SecretAccess.Document
import SecretAccess.Schema.Tables
import SecretAccess.Sql.Statement

namespace SecretAccess.Postgres

open Sql

def columnsOf (table : Schema.TableDefinition) : List Column :=
  table.columnNames.map (⟨table.name, ·⟩)

def entityColumns (kind : EntityKind) : List Column := columnsOf (Schema.entityTable kind)

def entityColumn (kind : EntityKind) (name : String) : Column := ⟨kind.tableName, name⟩

def endpointColumn (edge : EdgeKind) : Column := ⟨edge.tableName, edge.endpointColumn⟩

def groupColumn (edge : EdgeKind) : Column := ⟨edge.tableName, "group_id"⟩

def documentText (given : Given) : Given :=
  given.map fun value => .text value.render

def comparand (given : Given) : Document :=
  given.getD .null

def traitValues : (kind : EntityKind) → Traits kind → List (String × Given)
  | .client, traits => [("enabled", traits.enabled)]
  | .group, traits => [("metadata", documentText traits.metadata)]
  | .secret, traits => [("type", traits.contentType), ("metadata", documentText traits.metadata)]

def insertEntity {kind : EntityKind} (row : Entity kind) : Statement :=
  .insert kind.tableName
    ([("id", row.id), ("name", row.name), ("description", row.description)] ++
      traitValues kind row.traits ++
      [("created_at", some (.text row.createdAt)), ("created_by", row.createdBy),
        ("updated_at", some (.text row.updatedAt)), ("updated_by", row.updatedBy)])
    [] (Schema.entityTable kind).columnNames

def selectEntity (kind : EntityKind) (conditions : List Condition) (orderBy : Option Column) :
    Statement :=
  .select ⟨entityColumns kind, kind.tableName, [], conditions, orderBy, none⟩

def deleteEntity (kind : EntityKind) (id : Given) : Statement :=
  .delete kind.tableName [⟨entityColumn kind "id", comparand id⟩] ["id"]

/-- An edge that is there already stays as it is. -/
def insertEdge (edge : EdgeKind) (endpoint group : Given) : Statement :=
  .insert edge.tableName
    [(edge.endpointColumn, endpoint), ("group_id", group), ("created_at", none)]
    [edge.endpointColumn, "group_id"] []

def pairConditions (edge : EdgeKind) (endpoint group : Given) : List Condition :=
  [⟨endpointColumn edge, comparand endpoint⟩, ⟨groupColumn edge, comparand group⟩]

def deleteEdge (edge : EdgeKind) (endpoint group : Given) : Statement :=
  .delete edge.tableName (pairConditions edge endpoint group) []

def selectEdge (edge : EdgeKind) (endpoint group : Given) : Statement :=
  .select ⟨[endpointColumn edge], edge.tableName, [], pairConditions edge endpoint group, none,
    some 1⟩

def joinEntity (kind : EntityKind) (id : Column) : Join :=
  ⟨kind.tableName, entityColumn kind "id", id⟩

def joinEdge (edge : EdgeKind) (group : Column) : Join :=
  ⟨edge.tableName, groupColumn edge, group⟩

def selectGroupsOf (edge : EdgeKind) (endpoint : Given) : Statement :=
  .select ⟨entityColumns .group, edge.tableName, [joinEntity .group (groupColumn edge)],
    [⟨endpointColumn edge, comparand endpoint⟩], none, none⟩

def selectEndpointsOf (edge : EdgeKind) (group : Given) : Statement :=
  .select ⟨entityColumns edge.endpoint, edge.tableName,
    [joinEntity edge.endpoint (endpointColumn edge)], [⟨groupColumn edge, comparand group⟩],
    none, none⟩

def selectClientsForSecret (secret : Given) : Statement :=
  .select ⟨entityColumns .client, EdgeKind.grant.tableName,
    [joinEdge .membership (groupColumn .grant), joinEntity .client (endpointColumn .membership)],
    [⟨endpointColumn .grant, comparand secret⟩], none, none⟩

def nameConditions (name : Given) : List Condition :=
  name.toList.map (⟨entityColumn .secret "name", ·⟩)

def selectSecretPaths (client name : Given) : Statement :=
  .select ⟨entityColumns .secret ++ [entityColumn .group "id", entityColumn .group "name"],
    EdgeKind.membership.tableName,
    [joinEntity .group (groupColumn .membership), joinEdge .grant (groupColumn .membership),
      joinEntity .secret (endpointColumn .grant)],
    ⟨endpointColumn .membership, comparand client⟩ :: nameConditions name, none, none⟩

end SecretAccess.Postgres
