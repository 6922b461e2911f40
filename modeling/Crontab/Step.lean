import Crontab.Log

/-!
# Steps

A service is a state that answers commands one after another. A step is what one command does: the
next state, the answer, and the records made on the way.
-/

namespace Crontab

/-- What one command does to a service. -/
structure Step (State Answer : Type) where
  /-- The state afterwards. -/
  state : State
  /-- What is answered. -/
  answer : Answer
  /-- The records made, in order. -/
  log : List Log.Record
  deriving Repr

namespace Step

/-- The steps of a list of commands, each from the state that the one before it left. -/
def trace {State Command Answer : Type} (step : State → Command → Step State Answer) :
    State → List Command → List (Step State Answer)
  | _, [] => []
  | state, command :: commands =>
    let next := step state command
    next :: trace step next.state commands

/-- The state after a list of commands. -/
def run {State Command Answer : Type} (step : State → Command → Step State Answer)
    (state : State) (commands : List Command) : State :=
  commands.foldl (fun state command => (step state command).state) state

section Lemmas

variable {State Command Answer : Type} (step : State → Command → Step State Answer)

/-- One more command is run in the state that the others leave. -/
theorem run_concat (state : State) (commands : List Command) (command : Command) :
    run step state (commands ++ [command]) = (step (run step state commands) command).state := by
  rw [run, List.foldl_append]
  rfl

/-- Each step of a trace is the step of its command in the state that the commands before leave. -/
theorem getElem?_trace (state : State) (commands : List Command) (i : Nat) :
    (trace step state commands)[i]? =
      commands[i]?.map (step (run step state (commands.take i))) := by
  induction commands generalizing state i with
  | nil => rfl
  | cons command commands ih =>
    cases i with
    | zero => rfl
    | succ i => exact ih (step state command).state i

end Lemmas

end Step

end Crontab
