import WorkflowLab.Time.Timestamp

/-!
# Clocks

A clock shows the time of its next reading and moves on by a fixed step with every reading.

- `Clock.tick`: one reading;
- `Clocked`: computations that read the clock.
-/

namespace WorkflowLab.Time

/-- A clock. -/
structure Clock where
  now : Timestamp
  step : Nat
deriving DecidableEq, Repr, Inhabited

/-- Computations that read the clock. -/
abbrev Clocked := StateM Clock

namespace Clock

/-- One reading: the time, and the clock afterwards. -/
def tick (clock : Clock) : Timestamp × Clock := (clock.now, { clock with now := clock.now.later clock.step })

/-- Reads the clock. -/
def read : Clocked Timestamp := fun clock => clock.tick

/-- Reads the clock as text. -/
def stamp : Clocked String := do return (← read).iso

end Clock

end WorkflowLab.Time
