namespace SecretAccess.Text

def pieces (isSeparator : Char → Bool) : List Char → List (List Char)
  | [] => [[]]
  | c :: cs =>
      let rest := pieces isSeparator cs
      if isSeparator c then [] :: rest
      else match rest with
        | piece :: others => (c :: piece) :: others
        | [] => [[c]]

def cut? (separator : Char) : List Char → Option (List Char × List Char)
  | [] => none
  | c :: cs =>
      if c = separator then some ([], cs)
      else (cut? separator cs).map fun (before, after) => (c :: before, after)

end SecretAccess.Text
