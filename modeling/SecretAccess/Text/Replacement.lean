namespace SecretAccess.Text

def around? (found : List Char) : List Char → Option (List Char × List Char)
  | [] => if found.isEmpty then some ([], []) else none
  | c :: cs =>
      if found.isPrefixOf (c :: cs) then some ([], (c :: cs).drop found.length)
      else (around? found cs).map fun (before, behind) => (c :: before, behind)

/-- The text that a template calls for. The mark for what stands before is a grave accent and that
for what follows an apostrophe. -/
def filled (before found behind : List Char) : List Char → List Char
  | '$' :: '$' :: cs => '$' :: filled before found behind cs
  | '$' :: '&' :: cs => found ++ filled before found behind cs
  | '$' :: '\x60' :: cs => before ++ filled before found behind cs
  | '$' :: '\x27' :: cs => behind ++ filled before found behind cs
  | c :: cs => c :: filled before found behind cs
  | [] => []

def replaceFirst (found template cs : List Char) : List Char :=
  match around? found cs with
  | some (before, behind) => before ++ filled before found behind template ++ behind
  | none => cs

end SecretAccess.Text
