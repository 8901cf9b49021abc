/-!
Stretches of a format string.
-/

namespace Mishap

/-- The bytes of a format string from `start` up to, not including, `stop`. -/
structure Span where
  start : Nat
  stop : Nat
  deriving DecidableEq, Repr, Inhabited

namespace Span

def length (s : Span) : Nat := s.stop - s.start

end Span

end Mishap
