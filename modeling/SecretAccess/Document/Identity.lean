import SecretAccess.Document.Given

namespace SecretAccess

inductive Identity where
  | value (value : Given)
  | place (n : Nat)
  deriving DecidableEq

namespace Given

/-- Texts, numbers and flags are known by what they say, whoever gives them; a list or fields only by the
place at which they stand. -/
def standsAlone : Given → Bool
  | some (.list _) | some (.fields _) => true
  | _ => false

def identity (place : Nat) (given : Given) : Identity :=
  if given.standsAlone then .place place else .value given

def sameAs (a b : Given) : Bool :=
  !a.standsAlone && a = b

@[simp] theorem identity_text (place : Nat) (text : String) :
    identity place (some (.text text)) = .value (some (.text text)) := rfl

@[simp] theorem sameAs_text (s t : String) :
    sameAs (some (.text s)) (some (.text t)) = decide (s = t) := by
  simp [sameAs, standsAlone]

end Given

end SecretAccess
