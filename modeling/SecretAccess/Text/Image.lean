import SecretAccess.Text.Ranges

namespace SecretAccess.Text

/-- A run of characters, every `step`th one from the first to the last, and what they count as. The
image of the first one is given; those of the others follow on it as the characters do. -/
structure Image where
  first : Nat
  last : Nat
  step : Nat
  image : List Nat

namespace Image

/-- Reads a run and its image, as in `41-5A=61`. A step of two is written `/2`, and several
characters in an image are joined by `+`. -/
def ofText (word : String) : Image :=
  let (run, image) := match word.splitOn "=" with
    | [run, image] => (run, image)
    | _ => (word, "")
  let (range, step) := match run.splitOn "/" with
    | [range, step] => (range, hexNumber step)
    | _ => (run, 1)
  let (first, last) := rangeOf range
  ⟨first, last, step, (image.splitOn "+").map hexNumber⟩

def imageOf? (i : Image) (c : Char) : Option (List Char) :=
  let n := c.toNat
  if i.first ≤ n ∧ n ≤ i.last ∧ (n - i.first) % i.step = 0 then
    match i.image with
    | head :: tail => some (((head + (n - i.first)) :: tail).map Char.ofNat)
    | [] => none
  else none

end Image

abbrev Images := List Image

def imagesOf (s : String) : Images :=
  (words s).map Image.ofText

def Images.find? (images : Images) (c : Char) : Option (List Char) :=
  images.findSome? (·.imageOf? c)

end SecretAccess.Text
