import Mathlib.Data.List.Basic

/-! Incremental scanners. A scanner looks at the front of its unread input and
either takes a step, emitting output and consuming at least one element, or asks
for more input. A step never depends on input beyond what it was shown, so the
way the input is cut into chunks cannot be observed in the output. -/

set_option autoImplicit false

namespace Terrasync.Lib

structure Scanner (State Input Output : Type) where
  /-- New state, output, and the input left unread; `none` asks for more. -/
  step : State → List Input → Option (State × List Output × List Input)
  shrinks : ∀ {state input next output rest},
    step state input = some (next, output, rest) → rest.length < input.length
  settled : ∀ {state input next output rest},
    step state input = some (next, output, rest) →
    ∀ more, step state (input ++ more) = some (next, output, rest ++ more)

namespace Scanner

variable {State Input Output : Type}

/-- Step until more input is needed. -/
def run (scanner : Scanner State Input Output) (state : State) (input : List Input) :
    State × List Output × List Input :=
  match _stepped : scanner.step state input with
  | none => (state, [], input)
  | some (next, output, rest) =>
      let remaining := run scanner next rest
      (remaining.1, output ++ remaining.2.1, remaining.2.2)
termination_by input.length
decreasing_by exact scanner.shrinks _stepped

variable {scanner : Scanner State Input Output}

theorem run_of_none {state : State} {input : List Input} (waits : scanner.step state input = none) :
    scanner.run state input = (state, [], input) := by
  rw [run]
  split
  · rfl
  · next stepped => rw [waits] at stepped; cases stepped

theorem run_of_some {state next : State} {input rest : List Input} {output : List Output}
    (steps : scanner.step state input = some (next, output, rest)) :
    scanner.run state input =
      ((scanner.run next rest).1, output ++ (scanner.run next rest).2.1, (scanner.run next rest).2.2) := by
  rw [run]
  split
  · next stepped => rw [steps] at stepped; cases stepped
  · next stepped => rw [steps] at stepped; cases stepped; rfl

/-- A run ends only where the scanner asks for more input. -/
theorem run_waits (state : State) (input : List Input) :
    scanner.step (scanner.run state input).1 (scanner.run state input).2.2 = none := by
  induction state, input using run.induct scanner with
  | case1 state input waits => rw [run_of_none waits]; exact waits
  | case2 state input next output rest steps ih => rw [run_of_some steps]; exact ih

/-- Running on more input is running on the first part and then on what it left. -/
theorem run_append (state : State) (input more : List Input) :
    scanner.run state (input ++ more) =
      let first := scanner.run state input
      let second := scanner.run first.1 (first.2.2 ++ more)
      (second.1, first.2.1 ++ second.2.1, second.2.2) := by
  induction state, input using run.induct scanner with
  | case1 state input waits => simp [run_of_none waits]
  | case2 state input next output rest steps ih =>
      rw [run_of_some (scanner.settled steps more), run_of_some steps, ih]
      simp [List.append_assoc]

/-- A scanner between two chunks: its state and the input it has not consumed. -/
structure Paused (State Input : Type) where
  state : State
  unread : List Input

def push (scanner : Scanner State Input Output) (paused : Paused State Input) (chunk : List Input) :
    Paused State Input × List Output :=
  let result := scanner.run paused.state (paused.unread ++ chunk)
  (⟨result.1, result.2.2⟩, result.2.1)

def feed (scanner : Scanner State Input Output) (paused : Paused State Input) :
    List (List Input) → Paused State Input × List Output
  | [] => (paused, [])
  | chunk :: rest =>
      let pushed := scanner.push paused chunk
      let fed := scanner.feed pushed.1 rest
      (fed.1, pushed.2 ++ fed.2)

/-- The scanner needs more input before it can go on. -/
def Waiting (scanner : Scanner State Input Output) (paused : Paused State Input) : Prop :=
  scanner.step paused.state paused.unread = none

theorem push_waiting (paused : Paused State Input) (chunk : List Input) :
    scanner.Waiting (scanner.push paused chunk).1 :=
  run_waits _ _

theorem push_append (paused : Paused State Input) (left right : List Input) :
    scanner.push paused (left ++ right) =
      ((scanner.push (scanner.push paused left).1 right).1,
        (scanner.push paused left).2 ++ (scanner.push (scanner.push paused left).1 right).2) := by
  simp only [push]
  rw [← List.append_assoc, run_append]

/-- Chunk boundaries are invisible: feeding the chunks one by one is one push of
their concatenation. -/
theorem feed_eq_push_flatten {paused : Paused State Input} (waiting : scanner.Waiting paused)
    (chunks : List (List Input)) : scanner.feed paused chunks = scanner.push paused chunks.flatten := by
  induction chunks generalizing paused with
  | nil => simp [feed, push, run_of_none waiting]
  | cons chunk rest ih =>
      rw [feed, List.flatten_cons, push_append, ih (push_waiting paused chunk)]

end Scanner

end Terrasync.Lib
