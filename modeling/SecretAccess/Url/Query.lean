import SecretAccess.Text.Utf8
import SecretAccess.Url.Basic

namespace SecretAccess.Url

def fieldText (cs : List Char) : String :=
  Text.ofBytes (unescaped (cs.map fun c => if c = '+' then ' ' else c))

def queryFields (query : String) : List (String × String) :=
  (Text.pieces (· = '&') query.toList).filterMap fun piece =>
    if piece.isEmpty then none
    else
      let (name, value) := (Text.cut? '=' piece).getD (piece, [])
      some (fieldText name, fieldText value)

def queryField? (url : Url) (name : String) : Option String :=
  (queryFields (url.query.getD "")).lookup name

end SecretAccess.Url
