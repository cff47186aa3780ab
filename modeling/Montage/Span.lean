import Montage.Number.Scalar

/-!
Stretches of time.
-/

namespace Montage

/-- A stretch of a clock, in seconds. Nothing says that it runs forward. -/
structure Span (α : Type) where
  start : α
  stop : α
  deriving DecidableEq

namespace Span

variable {α : Type} [Scalar α]

/-- Reaches from the start of `inner` to its stop, up to `slack` at either end. -/
def Covers (slack : α) (outer inner : Span α) : Prop :=
  outer.start ≤ inner.start + slack ∧ inner.stop - slack ≤ outer.stop

instance (slack : α) (outer inner : Span α) : Decidable (Covers slack outer inner) :=
  inferInstanceAs (Decidable (_ ∧ _))

/-- Holds the instant; the stop is outside. -/
def Holds (span : Span α) (t : α) : Prop :=
  span.start ≤ t ∧ t < span.stop

instance (span : Span α) (t : α) : Decidable (span.Holds t) :=
  inferInstanceAs (Decidable (_ ∧ _))

/-- Holds the instant or misses it by at most `slack`. -/
def Reaches (slack : α) (span : Span α) (t : α) : Prop :=
  span.start - slack ≤ t ∧ t ≤ span.stop + slack

instance (slack : α) (span : Span α) (t : α) : Decidable (Reaches slack span t) :=
  inferInstanceAs (Decidable (_ ∧ _))

end Span

end Montage
