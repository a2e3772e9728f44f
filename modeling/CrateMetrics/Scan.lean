/-
Scans: steps that take elements from the front of a list and give a result, or fail. They
are the common ground of everything that is read here, character by character or token by
token.
-/

namespace CrateMetrics

abbrev Scan (τ β : Type) := StateT (List τ) Option β

namespace Scan

variable {τ β : Type}

def sees (test : List τ → Bool) : Scan τ Bool := do
  return test (← get)

def seesAfter (skipped : Nat) (test : List τ → Bool) : Scan τ Bool := do
  return test ((← get).drop skipped)

def skip (count : Nat) : Scan τ Unit :=
  modify (fun left => left.drop count)

def takeIf (test : List τ → Bool) (count : Nat) : Scan τ Bool := do
  if test (← get) then
    skip count
    return true
  else return false

def takeWhile (test : τ → Bool) : Scan τ (List τ) := do
  let left ← get
  set (left.dropWhile test)
  return left.takeWhile test

def require (condition : Bool) : Scan τ Unit :=
  if condition then return () else failure

/-- Applies a step to a list of its own, of which it has to take everything. -/
def all (content : List τ) (step : Scan τ β) : Scan τ β :=
  match step.run content with
  | some (result, []) => pure result
  | _ => failure

def isWhole (content : List τ) (step : Scan τ β) : Bool :=
  match step.run content with
  | some (_, []) => true
  | _ => false

def repeating (step : β → Scan τ (β × Bool)) : Nat → β → Scan τ β
  | 0, _ => failure
  | rounds + 1, state => do
      let (changed, again) ← step state
      if again then repeating step rounds changed else return changed

/-- Repeats a step that takes an element at least whenever it wants to go on. -/
def loop (start : β) (step : β → Scan τ (β × Bool)) : Scan τ β := do
  repeating step ((← get).length + 2) start

def many (goOn : List τ → Bool) (element : Scan τ β) : Scan τ (List β) := do
  let reversed ← loop [] (fun found => do
    if ← sees goOn then return ((← element) :: found, true)
    else return (found, false))
  return reversed.reverse

/-- Elements with separators between them and maybe after the last one, up to where the
test holds. -/
def separatedBy (stop : List τ → Bool) (separator : Scan τ Unit) (element : Scan τ β) :
    Scan τ (List β) := do
  let reversed ← loop [] (fun found => do
    if ← sees stop then return (found, false)
    else
      let found := (← element) :: found
      if ← sees stop then return (found, false)
      else
        separator
        return (found, true))
  return reversed.reverse

/-- Elements with separators between them and maybe after the last one; they end where the
test holds or no separator follows. -/
def chainedBy (stop : List τ → Bool) (separator : Scan τ Bool) (element : Scan τ β) :
    Scan τ (List β) := do
  let reversed ← loop [] (fun found => do
    if ← sees stop then return (found, false)
    else
      let found := (← element) :: found
      return (found, ← separator))
  return reversed.reverse

end Scan

end CrateMetrics
