import SecretAccess.Text.Pieces
import SecretAccess.Url.Percent

namespace SecretAccess.Url

inductive Path where
  | rootless (text : String)
  | segments (segments : List String)
  deriving DecidableEq, Repr

namespace Path

def text : Path → String
  | rootless text => text
  | segments names => String.join (names.map ("/" ++ ·))

def dots : List Char → List Char
  | '%' :: '2' :: 'e' :: cs | '%' :: '2' :: 'E' :: cs => '.' :: dots cs
  | c :: cs => c :: dots cs
  | [] => []

def isSingleDot (segment : List Char) : Bool := dots segment = ['.']

def isDoubleDot (segment : List Char) : Bool := dots segment = ['.', '.']

def isDrive : List Char → Bool
  | [letter, mark] => letter.isAlpha && (mark = ':' || mark = '|')
  | _ => false

def driveName : List Char → List Char
  | [letter, _] => [letter, ':']
  | segment => segment

def up (isFile : Bool) (path : List (List Char)) : List (List Char) :=
  match path with
  | [only] => if isFile && isDrive only && only.getLast? = some ':' then path else []
  | _ => path.dropLast

/-- Enters the segments after those that were entered before. The last one ends the path, with an
empty segment if it was resolved. -/
def enter (isFile : Bool) (path : List (List Char)) : List (List Char) → List (List Char)
  | [] => path
  | segment :: rest =>
      let close (path : List (List Char)) := if rest.isEmpty then path ++ [[]] else path
      let next :=
        if isDoubleDot segment then close (up isFile path)
        else if isSingleDot segment then close path
        else if isFile && path.isEmpty && isDrive segment then [driveName segment]
        else path ++ [escaped inPathSet segment]
      enter isFile next rest

/-- A path below a root is a list of segments, in which dots have been resolved: one dot stays where it is and
two go up. -/
def ofText (isFile : Bool) (isSlash : Char → Bool) (cs : List Char) : Path :=
  .segments ((enter isFile [] (Text.pieces isSlash cs)).map String.ofList)

end Path

end SecretAccess.Url
