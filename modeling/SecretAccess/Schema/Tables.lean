import SecretAccess.Schema.Definition
import SecretAccess.Store.Basic

namespace SecretAccess.Schema

open ColumnDefinition

def idColumns : List ColumnDefinition :=
  [primaryKey "id" .text, (required "name" .text).asUnique, optional "description" .text]

def auditColumns : List ColumnDefinition :=
  [(required "created_at" .instant).withDefault .now, required "created_by" .text,
    (required "updated_at" .instant).withDefault .now, required "updated_by" .text]

def metadataColumn : ColumnDefinition :=
  (required "metadata" .json).withDefault .emptyObject

def traitColumns : EntityKind → List ColumnDefinition
  | .client => [(required "enabled" .boolean).withDefault (.flag true)]
  | .group => [metadataColumn]
  | .secret => [optional "type" .text, metadataColumn]

def entityTable (kind : EntityKind) : TableDefinition where
  name := kind.tableName
  columns := idColumns ++ traitColumns kind ++ auditColumns
  compositeKey := []
  foreignKeys := []
  indexes := []

def edgeTable (edge : EdgeKind) : TableDefinition where
  name := edge.tableName
  columns := [required edge.endpointColumn .text, required "group_id" .text,
    (required "created_at" .instant).withDefault .now]
  compositeKey := [edge.endpointColumn, "group_id"]
  foreignKeys := [⟨edge.endpointColumn, edge.endpoint.tableName, "id", .cascade, .noAction⟩,
    ⟨"group_id", EntityKind.group.tableName, "id", .cascade, .noAction⟩]
  indexes := [⟨s!"{edge.tableName}_group_idx", ["group_id"], false⟩]

end SecretAccess.Schema
