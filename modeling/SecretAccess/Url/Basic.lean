import SecretAccess.Url.Authority
import SecretAccess.Url.Path

namespace SecretAccess

structure Url where
  scheme : String
  username : String
  password : String
  host : Option Url.Host
  port : Option Nat
  path : Url.Path
  query : Option String
  deriving DecidableEq, Repr

namespace Url

/-- The schemes of the web and of files read a backslash as a slash, look their hosts up as domains and always
have a path below a root; all other schemes leave these matters to those who know them. -/
inductive SchemeKind where
  | web (usualPort : Nat)
  | file
  | other
  deriving DecidableEq, Repr

def SchemeKind.of : String → SchemeKind
  | "http" => .web 80
  | "https" => .web 443
  | "ws" => .web 80
  | "wss" => .web 443
  | "ftp" => .web 21
  | "file" => .file
  | _ => .other

def SchemeKind.isSlash (kind : SchemeKind) (c : Char) : Bool :=
  c = '/' || (kind ≠ .other && c = '\\')

def cleaned (cs : List Char) : List Char :=
  let isEdge (c : Char) : Bool := c.toNat ≤ 0x20
  let trimmed := ((cs.dropWhile isEdge).reverse.dropWhile isEdge).reverse
  trimmed.filter fun c => c ≠ '\t' && c ≠ '\n' && c ≠ '\x0d'

def isSchemeChar (c : Char) : Bool :=
  c.isAlphanum || c = '+' || c = '-' || c = '.'

def scheme? (cs : List Char) : Option (String × List Char) := do
  let (name, rest) ← Text.cut? ':' cs
  if (name.head?.any Char.isAlpha) && name.all isSchemeChar then
    return (String.ofList (name.map Char.toLower), rest)
  else none

def isQueryOrFragment (c : Char) : Bool := c = '?' || c = '#'

def query? : List Char → Option String
  | '?' :: cs => some (String.ofList (cs.takeWhile (· ≠ '#')))
  | _ => none

def below (scheme : String) (kind : SchemeKind) (host : Option Host) (cs : List Char) : Url where
  scheme := scheme
  username := ""
  password := ""
  host := host
  port := none
  path := .ofText (kind = .file) kind.isSlash (cs.takeWhile (!isQueryOrFragment ·))
  query := query? (cs.dropWhile (!isQueryOrFragment ·))

def rootless (scheme : String) (cs : List Char) : Url where
  scheme := scheme
  username := ""
  password := ""
  host := none
  port := none
  path := .rootless (String.ofList (escaped isUnprintable (cs.takeWhile (!isQueryOrFragment ·))))
  query := query? (cs.dropWhile (!isQueryOrFragment ·))

def cutAuthority (kind : SchemeKind) (cs : List Char) : List Char × List Char :=
  cs.span fun c => !(kind.isSlash c || isQueryOrFragment c)

def withoutSlash (kind : SchemeKind) : List Char → List Char
  | c :: cs => if kind.isSlash c then cs else c :: cs
  | [] => []

/-- An address with an authority. Only a scheme that is not of the web can do without a path. -/
def withAuthority? (scheme : String) (kind : SchemeKind) (usualPort : Option Nat)
    (cs : List Char) : Option Url := do
  let (authority, rest) := cutAuthority kind cs
  let ⟨username, password, host, port⟩ ← Authority.ofText? (kind ≠ .other) usualPort authority
  let url := below scheme kind (some host) (withoutSlash kind rest)
  let pathless := kind = .other && rest.head?.all isQueryOrFragment
  return { url with username, password, port, path := if pathless then .segments [] else url.path }

def fileHost? (cs : List Char) : Option Host :=
  if cs.isEmpty then some .unnamed
  else (Host.ofText? true cs).map fun host =>
    if host = .domain "localhost" then .unnamed else host

def file? (scheme : String) (cs : List Char) : Option Url :=
  match cs with
  | a :: b :: rest =>
      if SchemeKind.file.isSlash a && SchemeKind.file.isSlash b then
        let (host, path) := cutAuthority .file rest
        if Path.isDrive host then some (below scheme .file (some .unnamed) rest)
        else (fileHost? host).map fun host =>
          below scheme .file (some host) (withoutSlash .file path)
      else some (below scheme .file (some .unnamed) (withoutSlash .file cs))
  | _ => some (below scheme .file (some .unnamed) (withoutSlash .file cs))

def ofText? (s : String) : Option Url := do
  let (scheme, cs) ← scheme? (cleaned s.toList)
  match SchemeKind.of scheme with
  | .web usualPort =>
      let kind := SchemeKind.web usualPort
      withAuthority? scheme kind (some usualPort) (cs.dropWhile kind.isSlash)
  | .file => file? scheme cs
  | .other => match cs with
      | '/' :: '/' :: rest => withAuthority? scheme .other none rest
      | '/' :: rest => return below scheme .other none rest
      | _ => return rootless scheme cs

end Url

end SecretAccess
