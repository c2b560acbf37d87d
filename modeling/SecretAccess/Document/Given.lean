import SecretAccess.Document

namespace SecretAccess

instance : Coe String Document := ⟨.text⟩

/-- Null is not the same as nothing: a store keeps a null that it is given, and a statement sends it. -/
abbrev Given := Option Document

namespace Given

def text? : Given → Option String
  | some (.text text) => some text
  | _ => none

def present : Given → Given
  | some .null => none
  | given => given

def field? (name : String) (given : Given) : Given :=
  given.bind (·.field? name)

def fields (entries : List (String × Given)) : List (String × Document) :=
  entries.filterMap fun (name, value) => value.map (name, ·)

end Given

end SecretAccess
