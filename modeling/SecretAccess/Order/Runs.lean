import SecretAccess.Order.Gallop

namespace SecretAccess.Order

variable {α : Type} {m : Type → Type} [Monad m]

def holdsAt (holds : α → m Bool) (xs : List α) (i : Nat) : m Bool :=
  match xs[i]? with
  | some x => holds x
  | none => return false

def runLength (before : α → α → m Bool) (falls : Bool) (last : α) : List α → m Nat
  | [] => return 0
  | x :: xs => do
      if (← before x last) = falls then return (← runLength before falls x xs) + 1 else return 0

def firstRun (before : α → α → m Bool) : List α → m (List α × List α)
  | x :: y :: rest => do
      let falls ← before y x
      let n ← runLength before falls y rest
      let run := x :: y :: rest.take n
      return (if falls then run.reverse else run, rest.drop n)
  | xs => return (xs, [])

def insertAll (before : α → α → m Bool) (run : List α) : List α → m (List α)
  | [] => return run
  | x :: xs => do
      let i ← halve (holdsAt (fun y => not <$> before x y) run) 0 run.length
      insertAll before (run.insertIdx i x) xs

/-- Two runs that are merged from one end on, with the elements at that end in front. -/
structure Merge (α : Type) where
  first : List α
  second : List α
  merged : List α

namespace Merge

/-- Merging stops when one run is used up, or all but the last element of the run that was moved
aside: forwards that is the first run, and backwards the second one. -/
def isDone (forwards : Bool) (s : Merge α) : Bool :=
  if forwards then s.first.length ≤ 1 || s.second.isEmpty
  else s.first.isEmpty || s.second.length ≤ 1

def elements (forwards : Bool) (s : Merge α) : List α :=
  s.merged.reverse ++ if forwards then s.second ++ s.first else s.first ++ s.second

def takeFirst (s : Merge α) (n : Nat) : Merge α :=
  ⟨s.first.drop n, s.second, (s.first.take n).reverse ++ s.merged⟩

def takeSecond (s : Merge α) (n : Nat) : Merge α :=
  ⟨s.first, s.second.drop n, (s.second.take n).reverse ++ s.merged⟩

/-- How many elements in front of a run go together. In the direction of the list, those of which a
test holds stand on the left. -/
def lead (forwards : Bool) (holds : α → m Bool) (run : List α) : m Nat := do
  if forwards then gallop (holdsAt holds run) run.length 0
  else return run.length - (← gallop (holdsAt holds run.reverse) run.length (run.length - 1))

/-- Merges on. While neither run wins `threshold` times in a row, one element is taken at a time;
then as many as go together are taken from each run by turns, for as long as that is worth it. Every
step takes an element, and there are at most `fuel` of them. Gives the threshold for later merges as
well. -/
def run (before : α → α → m Bool) (forwards : Bool) (s : Merge α) (inLeads : Bool)
    (wins losses threshold : Nat) : (fuel : Nat) → m (Merge α × Nat)
  | 0 => return (s, threshold)
  | fuel + 1 => match s.first, s.second with
    | a :: _, b :: _ => do
        if s.isDone forwards then return (s, threshold)
        else if inLeads then
          let threshold := max 1 (threshold - 1)
          let ahead ← lead forwards (fun x => not <$> before b x) s.first
          let s := s.takeFirst ahead
          if s.isDone forwards then return (s, threshold)
          let s := s.takeSecond 1
          if s.isDone forwards then return (s, threshold)
          let a := s.first.headD a
          let behind ← lead forwards (fun x => before x a) s.second
          let s := s.takeSecond behind
          if s.isDone forwards then return (s, threshold)
          let s := s.takeFirst 1
          if s.isDone forwards then return (s, threshold)
          else if 7 ≤ ahead ∨ 7 ≤ behind then run before forwards s true 0 0 threshold fuel
          else run before forwards s false 0 0 (threshold + 1) fuel
        else if (← before b a) = forwards then
          let s := s.takeSecond 1
          if s.isDone forwards then return (s, threshold)
          else if threshold ≤ losses + 1 then run before forwards s true 0 0 (threshold + 1) fuel
          else run before forwards s false 0 (losses + 1) threshold fuel
        else
          let s := s.takeFirst 1
          if s.isDone forwards then return (s, threshold)
          else if threshold ≤ wins + 1 then run before forwards s true 0 0 (threshold + 1) fuel
          else run before forwards s false (wins + 1) 0 threshold fuel
    | _, _ => return (s, threshold)

end Merge

def mergeLeft (before : α → α → m Bool) (threshold : Nat) (first second : List α) :
    m (List α × Nat) := do
  let fuel := first.length + second.length
  if first.length ≤ second.length then
    let start := (⟨first, second, []⟩ : Merge α).takeSecond 1
    let (s, threshold) ← if start.isDone true then pure (start, threshold)
      else start.run before true false 0 0 threshold fuel
    return (s.elements true, threshold)
  else
    let start := (⟨first.reverse, second.reverse, []⟩ : Merge α).takeFirst 1
    let (s, threshold) ← if start.isDone false then pure (start, threshold)
      else start.run before false false 0 0 threshold fuel
    return ((s.elements false).reverse, threshold)

def mergeRuns (before : α → α → m Bool) (threshold : Nat) (first second : List α) :
    m (List α × Nat) :=
  match second with
  | [] => return (first, threshold)
  | b :: _ => do
      let front ← gallop (holdsAt (fun x => not <$> before b x) first) first.length 0
      match (first.drop front).getLast? with
      | none => return (first ++ second, threshold)
      | some a =>
          let back ← gallop (holdsAt (fun x => before x a) second) second.length
            (second.length - 1)
          if back = 0 then return (first ++ second, threshold)
          let (merged, threshold) ←
            mergeLeft before threshold (first.drop front) (second.take back)
          return (first.take front ++ merged ++ second.drop back, threshold)

structure Pending (α : Type) where
  runs : List (List α)
  threshold : Nat

namespace Pending

def outweighs : List (List α) → Bool
  | a :: b :: c :: _ => a.length + b.length < c.length
  | _ => true

def mergeOnce (before : α → α → m Bool) (p : Pending α) : m (Pending α) :=
  match p.runs with
  | a :: b :: c :: rest => do
      if c.length < a.length then
        let (run, threshold) ← mergeRuns before p.threshold c b
        return ⟨a :: run :: rest, threshold⟩
      else
        let (run, threshold) ← mergeRuns before p.threshold b a
        return ⟨run :: c :: rest, threshold⟩
  | [a, b] => do
      let (run, threshold) ← mergeRuns before p.threshold b a
      return ⟨[run], threshold⟩
  | _ => return p

def mergeLatest (before : α → α → m Bool) (p : Pending α) : m (Pending α) :=
  match p.runs with
  | a :: b :: rest => do
      let (run, threshold) ← mergeRuns before p.threshold b a
      return ⟨run :: rest, threshold⟩
  | _ => return p

/-- Merges until every run is longer than the two behind it together and than the one behind it. -/
def settle (before : α → α → m Bool) (p : Pending α) : (fuel : Nat) → m (Pending α)
  | 0 => return p
  | fuel + 1 => match p.runs with
    | a :: b :: _ => do
        if !outweighs p.runs || !outweighs p.runs.tail then
          settle before (← p.mergeOnce before) fuel
        else if b.length ≤ a.length then settle before (← p.mergeLatest before) fuel
        else return p
    | _ => return p

def close (before : α → α → m Bool) (p : Pending α) : (fuel : Nat) → m (List α)
  | 0 => return p.runs.reverse.flatten
  | fuel + 1 => do
      if p.runs.length ≤ 1 then return p.runs.flatten
      else close before (← p.mergeOnce before) fuel

end Pending

/-- The least length of a run: lists below 64 are one run, and longer ones are halved until they are
below that, with one more if that leaves a remainder. -/
def leastLength (remainder n : Nat) : Nat :=
  if n < 64 then n + remainder else leastLength (max remainder (n % 2)) (n / 2)

def sortFrom (before : α → α → m Bool) (least : Nat) (p : Pending α) (xs : List α) :
    (fuel : Nat) → m (List α)
  | 0 => p.close before p.runs.length
  | fuel + 1 => do
      if xs.isEmpty then p.close before p.runs.length
      else
        let (run, rest) ← firstRun before xs
        let missing := least - run.length
        let run ← insertAll before run (rest.take missing)
        let p := { p with runs := run :: p.runs }
        let p ← p.settle before p.runs.length
        sortFrom before least p (rest.drop missing) fuel

/-- The comparison need not make sense: where it contradicts itself, the order of the result is the one to
which these steps lead. -/
def sort (before : α → α → m Bool) (xs : List α) : m (List α) :=
  sortFrom before (leastLength 0 xs.length) ⟨[], 7⟩ xs xs.length

end SecretAccess.Order
