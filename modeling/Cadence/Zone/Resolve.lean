import Cadence.Zone.Spans
import Cadence.Calendar.Moment
/-!
Offsets of a zone at an instant, and the instants of a wall-clock time.

The spans of a zone are searched by bisection, on the UTC line for an instant
and on the wall clock for a wall time. On the wall clock two neighbouring spans
may overlap (the clock was turned back) or leave a gap (it was turned forward),
so a wall time has no instant, one, or two. A wall time in a gap is moved one
hour later; of two instants the earlier one is taken.
-/
namespace Cadence.Zone

/-- The bounds of a span: from `lo` (included) to `hi` (excluded), unbounded
where absent. -/
structure Bounds where
  lo : Option Int
  hi : Option Int
  deriving DecidableEq, Repr

namespace Bounds

/-- The bounds hold `x`. -/
def contains (b : Bounds) (x : Int) : Bool :=
  match b.lo, b.hi with
  | some a, some c => a ≤ x && x < c
  | some a, none => a ≤ x
  | none, some c => x < c
  | none, none => true

/-- Where the span lies against `x`: `lt` when it lies wholly before it, `gt`
when it does not reach it from the left, `eq` when it holds it. -/
def compareTo (b : Bounds) (x : Int) : Ordering :=
  match b.lo, b.hi with
  | some a, some c => if a ≤ x ∧ x < c then .eq else if a ≤ x ∧ c ≤ x then .lt else .gt
  | some a, none => if a ≤ x then .eq else .gt
  | none, some c => if c ≤ x then .lt else .eq
  | none, none => .eq

end Bounds

/-- Bisection over the indices `lo` to `hi` (excluded) by a comparison that
says whether to look right (`lt`), left (`gt`) or stop (`eq`). -/
def bisect (f : Nat → Ordering) (lo hi : Nat) : Option Nat :=
  if lo < hi then
    let mid := lo + (hi - lo) / 2
    match f mid with
    | .lt => bisect f (mid + 1) hi
    | .gt => bisect f lo mid
    | .eq => some mid
  else none
termination_by hi - lo

namespace SpanSet

/-- The number of spans. -/
def size (s : SpanSet) : Nat := s.rest.size + 1

/-- The span at an index; the first span past the end. -/
def get (s : SpanSet) (i : Nat) : Span :=
  if i = 0 then s.first else (s.rest[i - 1]?.map Prod.snd).getD s.first

/-- The UTC seconds a span covers. -/
def utcBounds (s : SpanSet) (i : Nat) : Bounds :=
  ⟨if i = 0 then none else s.rest[i - 1]?.map Prod.fst, s.rest[i]?.map Prod.fst⟩

/-- The wall-clock seconds a span covers: its UTC bounds moved by its offset. -/
def wallBounds (s : SpanSet) (i : Nat) : Bounds :=
  let shift := (s.get i).total
  let b := s.utcBounds i
  ⟨b.lo.map (· + shift), b.hi.map (· + shift)⟩

/-- The span in force at a UTC second. -/
def spanAt (s : SpanSet) (t : Int) : Span :=
  match bisect (fun i => (s.utcBounds i).compareTo t) 0 s.size with
  | some i => s.get i
  | none => s.first

end SpanSet

/-- What a wall time is on the UTC line: nothing, one thing, or two. -/
inductive Resolution (α : Type) where
  | none
  | single (a : α)
  | ambiguous (earlier later : α)
  deriving DecidableEq, Repr

namespace Resolution

/-- Applies a function that may fail; an ambiguous pair needs both. -/
def bind? {α β : Type} (r : Resolution α) (f : α → Option β) : Resolution β :=
  match r with
  | .none => .none
  | .single a => match f a with
    | some b => .single b
    | Option.none => .none
  | .ambiguous a b => match f a, f b with
    | some x, some y => .ambiguous x y
    | _, _ => .none

/-- The earliest possibility. -/
def earliest {α : Type} : Resolution α → Option α
  | .none => Option.none
  | .single a => some a
  | .ambiguous a _ => some a

end Resolution

namespace SpanSet

/-- The spans whose wall clock shows a second: the span found by bisection,
paired with a neighbour that shows it too. -/
def spansAtWall (s : SpanSet) (x : Int) : Resolution Span :=
  match bisect (fun i => (s.wallBounds i).compareTo x) 0 s.size with
  | none => .none
  | some 0 =>
    if s.size = 1 then .single (s.get 0)
    else if (s.wallBounds 1).contains x then .ambiguous (s.get 0) (s.get 1)
    else .single (s.get 0)
  | some (i + 1) =>
    if (s.wallBounds i).contains x then .ambiguous (s.get i) (s.get (i + 1))
    else if i + 1 = s.size - 1 then .single (s.get (i + 1))
    else if (s.wallBounds (i + 2)).contains x then .ambiguous (s.get (i + 1)) (s.get (i + 2))
    else .single (s.get (i + 1))

end SpanSet

end Cadence.Zone

namespace Cadence

/-- A named time zone with its spans of fixed offset. -/
structure TimeZone where
  name : String
  spans : Zone.SpanSet
  deriving Inhabited

namespace TimeZone

/-- The zone of a name of the database; names are matched exactly. -/
def ofName? (name : String) : Option TimeZone :=
  (Zone.database.periods? name).map fun ps => ⟨name, Zone.SpanSet.ofPeriods Zone.database ps⟩

/-- The name is one of the database's. -/
def isKnown (name : String) : Bool :=
  (Zone.database.periods? name).isSome

/-- The offset east of UTC, in seconds, at an instant. -/
def offsetAt (z : TimeZone) (t : Instant) : Int :=
  (z.spans.spanAt t.seconds).total

/-- An instant seen in the zone. -/
def zonedAt (z : TimeZone) (t : Instant) : ZonedTime :=
  ⟨t, z.offsetAt t⟩

/-- The instants at which the zone's wall clock shows `w`; an instant that
leaves the representable calendar is not one. -/
def ofWall (z : TimeZone) (w : WallTime) : Zone.Resolution ZonedTime :=
  (z.spans.spansAtWall w.seconds).bind? fun span =>
    let t := w.toInstant span.total
    if t.inRange then some ⟨t, span.total⟩ else none

/-- The instant of a wall time: the earlier of two, and for a wall time in a gap
the earliest instant of the time one hour later, if there is one. -/
def resolve (z : TimeZone) (w : WallTime) : Option ZonedTime :=
  match z.ofWall w with
  | .single t => some t
  | .ambiguous t _ => some t
  | .none => (w.addSeconds? 3600).bind fun later => (z.ofWall later).earliest

end TimeZone

end Cadence
