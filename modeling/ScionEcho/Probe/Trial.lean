/-!
# Trials

One probe and what came of it.
-/

namespace ScionEcho

/-- What came of a probe. -/
inductive TrialOutcome
  /-- Its own reply arrived. -/
  | success
  /-- A reply to another probe arrived. -/
  | mismatch
  /-- Nothing arrived in time. -/
  | timeout
  deriving DecidableEq, Repr

def TrialOutcome.name : TrialOutcome → String
  | .success => "success"
  | .mismatch => "mismatch"
  | .timeout => "timeout"

/-- One probe with the clock readings around it, in nanoseconds. -/
structure Trial where
  correlationId : Int
  sentAt : Int
  receivedAt : Option Int
  outcome : TrialOutcome
  deriving DecidableEq, Repr

/-- The round trip time of a successful trial. -/
def Trial.elapsed? (t : Trial) : Option Int :=
  if t.outcome = .success then t.receivedAt.map (· - t.sentAt) else none

theorem Trial.elapsed?_eq_none {t : Trial} (h : t.outcome ≠ .success) : t.elapsed? = none := by
  simp [elapsed?, h]

end ScionEcho
