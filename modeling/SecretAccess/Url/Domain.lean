import SecretAccess.Text.Composition
import SecretAccess.Text.Pieces
import SecretAccess.Url.Domain.Direction
import SecretAccess.Url.Domain.Joining
import SecretAccess.Url.Domain.Shape
import SecretAccess.Url.Percent
import SecretAccess.Url.Punycode

namespace SecretAccess.Url

def isForbiddenInHost (c : Char) : Bool :=
  ['\x00', '\t', '\n', '\x0d', ' ', '#', '/', ':', '<', '>', '?', '@', '[', '\\', ']', '^',
    '|'].contains c

def isForbiddenInDomain (c : Char) : Bool :=
  isForbiddenInHost c || c.toNat < 0x20 || c = '%' || c = '\x7f'

namespace Domain

def encodedMark : List Char := ['x', 'n', '-', '-']

/-- Whether characters beyond ASCII stand where they may, which is never behind the mark of a label
in Punycode. A joiner settles the matter, even as to directions. -/
def isWellFormed (label : List Char) : Bool :=
  !encodedMark.isPrefixOf label && !label.head?.any (Text.within marks) &&
    (joinerAgrees? [] label).getD (directionsAgree label)

def isEncodedLabel (cs : List Char) : Bool :=
  match Punycode.decode? cs with
  | some label => shapes? label = some label && Text.composed label = label && isWellFormed label
  | none => false

def label? (cs : List Char) : Option (List Char) :=
  if cs.all (·.toNat < 128) then
    if encodedMark.isPrefixOf cs && !isEncodedLabel (cs.drop 4) then none else some cs
  else if isWellFormed cs then some (encodedMark ++ Punycode.encode cs)
  else none

end Domain

def domain? (cs : List Char) : Option (List Char) := do
  let shapes ← Domain.shapes? cs
  let labels ← (Text.pieces (· = '.') (Text.composed shapes)).mapM Domain.label?
  let name := List.intercalate ['.'] labels
  if name.isEmpty || name.any isForbiddenInDomain then none else return name

end SecretAccess.Url
