/-!
# Putting things in order

Things are put in the order of their keys, and things of one key keep the order they came in.
Where keys cannot be compared with each other, as a time that is no number, what comes out depends
on how the order is made: the sorted start of a list, turned around if it falls, stays as it is,
and each later thing is put where halving the part before it leads.  Comparing may fail, and then
there is no order.
-/

namespace StillMotion.Ordering

variable {β : Type} {m : Type → Type} [Monad m]

/-- Where halving puts `x` among the things from `low` to `high`: to the left of a middle that
`x` comes before, otherwise to its right. -/
def seat (before : β → β → m Bool) (x : β) (things : Array β) (low high : Nat) : m Nat := do
  if low < high then
    let middle := (low + high) / 2
    match things[middle]? with
    | none => return low
    | some y =>
        if ← before x y then seat before x things low middle
        else seat before x things (middle + 1) high
  else return low
termination_by high - low

/-- The things that go on in a direction, which `follows` tells, and the rest. -/
def goingOn (follows : β → β → m Bool) (last : β) : List β → m (List β × List β)
  | [] => return ([], [])
  | x :: rest => do
      if ← follows last x then
        let (run, rest) ← goingOn follows x rest
        return (x :: run, rest)
      else return ([], x :: rest)

/-- The sorted start of a list, and the rest.  A strictly falling start is turned around. -/
def sortedStart (before : β → β → m Bool) : List β → m (List β × List β)
  | [] => return ([], [])
  | [x] => return ([x], [])
  | x :: y :: rest => do
      if ← before y x then
        let (run, rest) ← goingOn (fun last next => before next last) y rest
        return ((x :: y :: run).reverse, rest)
      else
        let (run, rest) ← goingOn (fun last next => return !(← before next last)) y rest
        return (x :: y :: run, rest)

def byInsertion (before : β → β → m Bool) (things : List β) : m (List β) := do
  let (start, rest) ← sortedStart before things
  let sorted ← rest.foldlM (fun (sorted : Array β) x => do
    let place ← seat before x sorted 0 sorted.size
    return sorted.insertIdxIfInBounds place x) start.toArray
  return sorted.toList

/-- Put things in the order of their keys, those of one key in the order they came in. -/
def byKey {α : Type} [LE α] [DecidableLE α] [LT α] [DecidableLT α] (key : β → α)
    (things : List β) : List β :=
  if things.all fun x => decide (key x ≤ key x) then
    things.mergeSort fun a b => !decide (key b < key a)
  else Id.run (byInsertion (fun a b => pure (decide (key a < key b))) things)

end StillMotion.Ordering
