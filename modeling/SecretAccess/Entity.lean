import SecretAccess.Document.Identity
import SecretAccess.Document.Loose

namespace SecretAccess

abbrev Timestamp := String

inductive EntityKind where
  | client
  | group
  | secret
  deriving DecidableEq, Repr

def EntityKind.label : EntityKind → String
  | .client => "client"
  | .group => "group"
  | .secret => "secret"

structure ClientTraits where
  enabled : Given
  deriving DecidableEq

structure GroupTraits where
  metadata : Given
  deriving DecidableEq

/-- Only the versionless identity of a secret is held, never its content. -/
structure SecretTraits where
  contentType : Given
  metadata : Given
  deriving DecidableEq

abbrev Traits : EntityKind → Type
  | .client => ClientTraits
  | .group => GroupTraits
  | .secret => SecretTraits

instance : (kind : EntityKind) → DecidableEq (Traits kind)
  | .client => inferInstanceAs (DecidableEq ClientTraits)
  | .group => inferInstanceAs (DecidableEq GroupTraits)
  | .secret => inferInstanceAs (DecidableEq SecretTraits)

structure Entity (kind : EntityKind) where
  id : Given
  name : Given
  description : Given
  traits : Traits kind
  createdAt : Timestamp
  createdBy : Given
  updatedAt : Timestamp
  updatedBy : Given
  deriving DecidableEq

abbrev Client := Entity .client
abbrev Group := Entity .group
abbrev Secret := Entity .secret

structure Draft (kind : EntityKind) where
  id : Given
  name : Given
  description : Given
  traits : Traits kind
  createdBy : Given

def Given.traits (given : Given) : (kind : EntityKind) → Traits kind
  | .client => ⟨given.field? "enabled"⟩
  | .group => ⟨given.field? "metadata"⟩
  | .secret => ⟨given.field? "type", given.field? "metadata"⟩

def Given.draft (given : Given) (kind : EntityKind) : Draft kind :=
  ⟨given.field? "id", given.field? "name", given.field? "description", given.traits kind,
    given.field? "createdBy"⟩

def Given.orElse (given : Given) (fallback : Document) : Given :=
  given.present <|> some fallback

/-- A client is enabled and metadata is empty unless the caller says otherwise. -/
def settledTraits : {kind : EntityKind} → Traits kind → Traits kind
  | .client, asked => ⟨asked.enabled.orElse (.flag true)⟩
  | .group, asked => ⟨asked.metadata.orElse (.fields [])⟩
  | .secret, asked => ⟨asked.contentType, asked.metadata.orElse (.fields [])⟩

/-- The entity that a draft becomes: created and last updated at once, by the same caller. -/
def Draft.entity {kind : EntityKind} (draft : Draft kind) (id : Given) (stamp : Timestamp) :
    Entity kind where
  id := id
  name := draft.name
  description := draft.description
  traits := settledTraits draft.traits
  createdAt := stamp
  createdBy := draft.createdBy
  updatedAt := stamp
  updatedBy := draft.createdBy

/-- The metadata of a copy are fields, whatever they were. -/
def copiedTraits : {kind : EntityKind} → Traits kind → Traits kind
  | .client, traits => traits
  | .group, traits => ⟨some (.fields traits.metadata.spread)⟩
  | .secret, traits => ⟨traits.contentType, some (.fields traits.metadata.spread)⟩

def Entity.copy {kind : EntityKind} (row : Entity kind) : Entity kind :=
  { row with traits := copiedTraits row.traits }

/-- A grant lets a group read a secret and a membership places a client in a group; a client reads a secret
only through a group that has both. -/
inductive EdgeKind where
  | grant
  | membership
  deriving DecidableEq, Repr

abbrev EdgeKind.endpoint : EdgeKind → EntityKind
  | .grant => .secret
  | .membership => .client

/-- An edge has no id of its own; the pair it joins is its identity. -/
structure Edge where
  endpoint : Given
  group : Given
  createdAt : Timestamp
  deriving DecidableEq

structure PathTo (α : Type) where
  secret : α
  groupId : Given
  groupName : Given
  deriving DecidableEq

abbrev SecretPath := PathTo Secret

end SecretAccess
