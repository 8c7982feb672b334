set_option autoImplicit false

namespace GangScheduling

structure ScheduleLoop where
  interval : Nat
  -- When the next pass is due; a loop that has not begun has none.
  due : Option Nat := none
  stopping : Bool := false
  finished : Bool := false
deriving DecidableEq, Repr

namespace ScheduleLoop

/-- By how many milliseconds a pass may be late without the loop skipping any. -/
def slack : Nat := 5

def duePasses (interval due now : Nat) : Nat × Nat :=
  if now < due then (0, due)
  else
    let late := now - due
    -- The loop skips to the first multiple of its interval after now.
    if slack < late then (1, now + interval - late % interval)
    else
      let passes := late / interval + 1
      (passes, due + passes * interval)

def begin (loop : ScheduleLoop) (now : Nat) : ScheduleLoop × Nat :=
  match loop.due with
  | some _ => (loop, 0)
  | none =>
    if loop.stopping ∨ loop.interval = 0 then ({ loop with finished := true }, 0)
    else ({ loop with due := some (now + loop.interval) }, 1)

def poll (loop : ScheduleLoop) (now : Nat) : ScheduleLoop × Nat :=
  match loop.due with
  | none => (loop, 0)
  | some due =>
    if loop.finished then (loop, 0)
    else if loop.stopping then ({ loop with finished := true }, 0)
    else
      let (passes, next) := duePasses loop.interval due now
      ({ loop with due := some next }, passes)

end ScheduleLoop

end GangScheduling
