import SecretAccess.Url.Domain
import SecretAccess.Url.Ipv4
import SecretAccess.Url.Ipv6

namespace SecretAccess.Url

inductive Host where
  | domain (name : String)
  | ipv4 (address : Nat)
  | ipv6 (words : List Nat)
  | verbatim (text : String)
  deriving DecidableEq, Repr

namespace Host

def unnamed : Host := verbatim ""

def text : Host → String
  | domain name => name
  | ipv4 address => Ipv4.text address
  | ipv6 words => "[" ++ Ipv6.text words ++ "]"
  | verbatim text => text

/-- A domain, or an IPv4 address if the last label is a number. -/
def ofDomain? (cs : List Char) : Option Host := do
  let decoded ← textOf? (unescaped cs)
  let name ← domain? decoded.toList
  if Ipv4.looksNumeric name then (Ipv4.ofText? name).map ipv4
  else return domain (String.ofList name)

def ofText? (looksUp : Bool) (cs : List Char) : Option Host :=
  match cs with
  | '[' :: rest =>
      if rest.getLast? = some ']' then (Ipv6.ofText? rest.dropLast).map ipv6 else none
  | _ =>
      if looksUp then ofDomain? cs
      else if cs.any isForbiddenInHost then none
      else some (verbatim (String.ofList (escaped isUnprintable cs)))

end Host

end SecretAccess.Url
