/-!
# Sets of indices as spans

A set of natural numbers kept as a list of spans in increasing order that do not
touch.  Reserving a long run of blocks adds one span, whatever its length.
-/

namespace TopoPlan

/-- The numbers from `first` up to, but not including, `stop`. -/
structure Span where
  first : Nat
  stop : Nat
  deriving DecidableEq, Inhabited

/-- Spans in increasing order with a gap between each two. -/
abbrev Spans := List Span

namespace Spans

/-- Add a span that is not empty, joining it with every span it meets. -/
def add (first stop : Nat) : Spans -> Spans
  | [] => [⟨first, stop⟩]
  | span :: rest =>
    if stop < span.first then ⟨first, stop⟩ :: span :: rest
    else if span.stop < first then span :: add first stop rest
    else add (min first span.first) (max stop span.stop) rest

/-- Whether a number lies in one of the spans. -/
def contains (spans : Spans) (index : Nat) : Bool :=
  spans.any fun span => span.first <= index && index < span.stop

/-- How many numbers lie in the spans. -/
def count (spans : Spans) : Nat :=
  (spans.map fun span => span.stop - span.first).foldr (· + ·) 0

/-- The lowest numbers from `start` on and below `limit` that lie in no span, at
most `needed` of them. -/
def free (start limit needed : Nat) : Spans -> List Nat
  | [] => List.range' start (min needed (limit - start))
  | span :: rest =>
    let gap := List.range' start (min needed (min span.first limit - start))
    gap ++ free (max start span.stop) limit (needed - gap.length) rest

end Spans

end TopoPlan
