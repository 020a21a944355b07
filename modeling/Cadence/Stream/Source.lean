import Cadence.Calendar.Date
/-!
Sources of values given one at a time, and their ordered union and
difference.

A source answers `next?` with its next value and the rest of the source, with
nothing when it is done, or with a `CalendarError` when producing the value
stepped past the end of the calendar. `remaining` bounds how many values it can
still give, so loops that pull values use it as their fuel. A list is a source
of its elements.

The union of two ascending sources gives the lesser head first, and one value
for two equal heads (the left one). The difference of two ascending sources
gives the values of the first not present in the second; it gives up, ending
the source, after `maxConsecutiveExclusions` values in a row have been
excluded.
-/
namespace Cadence

/-- A source of values of type `α` in state `σ`. -/
class Source (σ : Type) (α : outParam Type) where
  next? : σ → Except CalendarError (Option (α × σ))
  /-- An upper bound on the number of values still to come. -/
  remaining : σ → Nat

instance {α : Type} : Source (List α) α where
  next?
    | [] => pure none
    | a :: as => pure (some (a, as))
  remaining l := l.length

namespace Source

variable {σ α : Type} [Source σ α]

/-- The values taken so far, newest first, followed by the first `n` values
of `s`. -/
def takeOnto (acc : List α) (s : σ) : Nat → Except CalendarError (List α)
  | 0 => pure acc.reverse
  | n + 1 =>
    match next? s with
    | .error e => .error e
    | .ok none => pure acc.reverse
    | .ok (some (a, s')) => takeOnto (a :: acc) s' n

/-- The first `n` values, fewer if the source ends. -/
def take (s : σ) (n : Nat) : Except CalendarError (List α) :=
  takeOnto [] s n

/-- The values taken so far, newest first, followed by the values of `s` while
they pass a test, at most `n` of them. -/
def takeWhileOnto (p : α → Bool) (acc : List α) (s : σ) : Nat → Except CalendarError (List α)
  | 0 => pure acc.reverse
  | n + 1 =>
    match next? s with
    | .error e => .error e
    | .ok none => pure acc.reverse
    | .ok (some (a, s')) => if p a then takeWhileOnto p (a :: acc) s' n else pure acc.reverse

/-- Values while they pass a test, at most `fuel` of them. -/
def takeWhileFuel (p : α → Bool) (s : σ) (fuel : Nat) : Except CalendarError (List α) :=
  takeWhileOnto p [] s fuel

/-- Values while they pass a test. -/
def takeWhile (p : α → Bool) (s : σ) : Except CalendarError (List α) :=
  takeWhileFuel p s (remaining s + 1)

/-- All the values. -/
def toList (s : σ) : Except CalendarError (List α) :=
  takeWhile (fun _ => true) s

end Source

/-- A source whose next value may have been looked at already. -/
inductive Peek (σ α : Type) where
  /-- The next value has not been looked at. -/
  | later (s : σ)
  /-- The next value, and the source after it. -/
  | ahead (a : α) (s : σ)
  /-- The source is done. -/
  | ended

namespace Peek

variable {σ α : Type} [Source σ α]

/-- Looks at the next value. -/
def force : Peek σ α → Except CalendarError (Peek σ α)
  | .later s => do
    match ← Source.next? s with
    | some (a, s') => pure (.ahead a s')
    | none => pure .ended
  | p => pure p

/-- An upper bound on the values still to come. -/
def remaining : Peek σ α → Nat
  | .later s => Source.remaining s
  | .ahead _ s => Source.remaining s + 1
  | .ended => 0

end Peek

/-- The ordered union of two sources. -/
structure Union (σ τ α : Type) where
  left : Peek σ α
  right : Peek τ α

namespace Union

variable {σ τ α : Type} [Ord α] [Source σ α] [Source τ α]

/-- The union of two sources, neither looked at. -/
def ofSources (l : σ) (r : τ) : Union σ τ α := ⟨.later l, .later r⟩

/-- The lesser head; for equal heads the left one, both sides moving on. -/
def next? (u : Union σ τ α) : Except CalendarError (Option (α × Union σ τ α)) := do
  let l ← u.left.force
  let r ← u.right.force
  match l, r with
  | .ahead a s, .ahead b t =>
    match compare a b with
    | .lt => pure (some (a, ⟨.later s, r⟩))
    | .gt => pure (some (b, ⟨l, .later t⟩))
    | .eq => pure (some (a, ⟨.later s, .later t⟩))
  | .ahead a s, _ => pure (some (a, ⟨.later s, r⟩))
  | _, .ahead b t => pure (some (b, ⟨l, .later t⟩))
  | _, _ => pure none

instance : Source (Union σ τ α) α where
  next? := next?
  remaining u := u.left.remaining + u.right.remaining

end Union

/-- Excluded values in a row after which a difference gives up. -/
def maxConsecutiveExclusions : Nat := 100000

/-- The values of a source that another does not hold. -/
structure Difference (σ τ α : Type) where
  base : σ
  excluded : Peek τ α

namespace Difference

variable {σ τ α : Type} [Ord α] [Source σ α] [Source τ α]

/-- The difference of two sources. -/
def ofSources (i : σ) (e : τ) : Difference σ τ α := ⟨i, .later e⟩

/-- Moves the excluded side past the values below `c`, and says how its next
value compares with `c`, if it has one; at most `fuel` values are passed. -/
def passBelow (c : α) : Nat → Peek τ α → Except CalendarError (Peek τ α × Option Ordering)
  | 0, e => pure (e, none)
  | fuel + 1, e => do
    match ← e.force with
    | .ahead x s =>
      match compare x c with
      | .lt => passBelow c fuel (.later s)
      | o => pure (.ahead x s, some o)
    | e => pure (e, none)

/-- The next value not excluded, giving up when `budget` runs out of equal
values in a row. -/
def nextWithin (d : Difference σ τ α) : Nat → Except CalendarError (Option (α × Difference σ τ α))
  | 0 => pure none
  | budget + 1 => do
    match ← Source.next? d.base with
    | none => pure none
    | some (c, i) =>
      let (e, o) ← passBelow c (d.excluded.remaining + 1) d.excluded
      if o = some .eq then
        if budget = 0 then pure none else nextWithin ⟨i, e⟩ budget
      else pure (some (c, ⟨i, e⟩))

instance : Source (Difference σ τ α) α where
  next? d := d.nextWithin maxConsecutiveExclusions
  remaining d := Source.remaining d.base

end Difference

end Cadence
