namespace SecretAccess.Order

variable {m : Type → Type} [Monad m]

def halve (holds : Nat → m Bool) (low high : Nat) : m Nat := do
  if low < high then
    let middle := low + (high - low) / 2
    if ← holds middle then halve holds (middle + 1) high else halve holds low middle
  else return low
termination_by high - low

/-- Goes on in strides that double, up to a limit, for as long as the test holds. Gives the last
offset at which it held and the one at which that ended. -/
def stride (holds : Nat → m Bool) (limit last offset : Nat) : m (Nat × Nat) := do
  if offset < limit then
    if ← holds offset then stride holds limit offset (2 * offset + 1) else return (last, offset)
  else return (last, limit)
termination_by limit - offset

/-- The place at which a test turns from yes to no. Where it turns more than once, the place depends on these
steps. -/
def gallop (holds : Nat → m Bool) (length start : Nat) : m Nat := do
  if ← holds start then
    let (last, offset) ← stride (fun i => holds (start + i)) (length - start) 0 1
    halve holds (start + last + 1) (start + offset)
  else
    let (last, offset) ← stride (fun i => not <$> holds (start - i)) (start + 1) 0 1
    halve holds (start + 1 - offset) (start - last)

end SecretAccess.Order
