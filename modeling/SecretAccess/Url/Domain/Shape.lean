import SecretAccess.Text.Image
import SecretAccess.Url.Domain.Shape.Table

namespace SecretAccess.Url.Domain

def settled : Text.Ranges := Text.rangesOf settledText

def ignored : Text.Ranges := Text.rangesOf ignoredText

def images : Text.Images := Text.imagesOf imageText

/-- A character beyond ASCII stands for itself, leaves no trace, or is another shape of some other characters;
one that does none of this cannot be in a domain name. -/
def shape? (c : Char) : Option (List Char) :=
  if c.toNat < 128 then some [c.toLower]
  else if Text.within settled c then some [c]
  else if Text.within ignored c then some []
  else images.find? c

def shapes? (cs : List Char) : Option (List Char) :=
  (cs.mapM shape?).map List.flatten

end SecretAccess.Url.Domain
