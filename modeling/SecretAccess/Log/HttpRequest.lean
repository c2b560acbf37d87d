import SecretAccess.Document.Loose

namespace SecretAccess.HttpRequest

abbrev Fields := List (String × Document)

def present? (data : Fields) (name : String) : Option Document :=
  (data.lookup name).filter Document.isTruthy

def describes (data : Fields) : Bool :=
  (present? data "method").isSome && (present? data "headers").isSome &&
    (present? data "socket").isSome

def requestId? (data : Fields) : Option Document :=
  present? data "id" <|> (present? data "info").bind (·.field? "id")

/-- The address as it was first asked for, or else a path, the path of an address, an address. -/
def url? (data : Fields) : Option Document :=
  match present? data "originalUrl", data.lookup "path" with
  | some asked, _ => some asked
  | none, some (.text path) => some (.text path)
  | none, _ => (present? data "url").map fun url =>
      ((url.field? "path").filter Document.isTruthy).getD url

def remote? (data : Fields) (name : String) : Option Document :=
  (present? data "info" <|> present? data "socket").bind (·.field? name)

/-- An entry with a method, headers and a socket is about such a request: what it says of that is written in
place of all its fields. -/
def fields (data : Fields) : Fields :=
  [("id", requestId? data), ("method", data.lookup "method"), ("url", url? data),
    ("query", present? data "query"), ("params", present? data "params"),
    ("headers", data.lookup "headers"), ("remoteAddress", remote? data "remoteAddress"),
    ("remotePort", remote? data "remotePort")].filterMap fun (name, value) => value.map (name, ·)

end SecretAccess.HttpRequest
