/- # Circulation.Pool -- several procedures on one gate

A pool runs procedures side by side. A step of a task is one request: passing the gate and leaving
it concern the pool, everything else is answered by the common surroundings at once. A task that
finds the gate held waits in line. Any task can be dropped between two of its requests; if it held
the gate, the gate goes on to the next in line, and if it waited, its place is gone.

The order of steps is free: a schedule is any list of moves.
-/
import Circulation.Gate
import Circulation.Procedure

namespace Circulation

/-- Where a task stands. A finished task is ready with nothing left to ask. -/
inductive Task (α : Type) where
  | ready (rest : Procedure α)
  /-- In line before the gate. -/
  | waiting (rest : Procedure α)
  | dropped

namespace Task

/-- The result of a finished task. -/
def result? {α : Type} : Task α → Option α
  | ready (.done a) => some a
  | _ => none

end Task

/-- Tasks by their place, the gate they share, and the surroundings they share. -/
structure Pool (σ α : Type) where
  world : σ
  gate : Gate Nat
  tasks : List (Task α)

namespace Pool

variable {σ α : Type}

/-- All tasks at their beginning, the gate free. -/
def start (world : σ) (procedures : List (Procedure α)) : Pool σ α :=
  ⟨world, .empty, procedures.map .ready⟩

/-- The task at a place stands here now. -/
def setTask (p : Pool σ α) (i : Nat) (t : Task α) : Pool σ α := { p with tasks := p.tasks.set i t }

/-- The task at a place waits no more. -/
def wake (tasks : List (Task α)) (i : Nat) : List (Task α) :=
  match tasks[i]? with
  | some (.waiting rest) => tasks.set i (.ready rest)
  | _ => tasks

/-- The holder leaves the gate, and the next in line goes on. -/
def leaveGate (p : Pool σ α) : Pool σ α :=
  let gate := p.gate.leave
  match gate.holder with
  | none => { p with gate }
  | some next => { p with gate, tasks := wake p.tasks next }

/-- The task at a place asks its next request, if it has one and does not wait. -/
def step (answer : Surroundings σ) (p : Pool σ α) (i : Nat) : Pool σ α :=
  match p.tasks[i]? with
  | some (.ready (.ask .enterGate next)) =>
    if p.gate.holder.isNone then { p.setTask i (.ready (next ())) with gate := p.gate.enter i }
    else { p.setTask i (.waiting (next ())) with gate := p.gate.enter i }
  | some (.ready (.ask .leaveGate next)) => (p.setTask i (.ready (next ()))).leaveGate
  | some (.ready (.ask q next)) =>
    let (a, world) := answer q p.world
    { p.setTask i (.ready (next a)) with world }
  | _ => p

/-- The task at a place is given up. -/
def drop (p : Pool σ α) (i : Nat) : Pool σ α :=
  match p.tasks[i]? with
  | some (.ready _) =>
    let p' := p.setTask i .dropped
    if p.gate.holds i then p'.leaveGate else p'
  | some (.waiting _) => { p.setTask i .dropped with gate := p.gate.withdraw i }
  | _ => p

/-! ## Schedules -/

/-- A move of a pool: a task asks its next request, a task is given up, or the surroundings change
by themselves. -/
inductive Move (σ : Type) where
  | step (task : Nat)
  | drop (task : Nat)
  | change (f : σ → σ)

/-- The pool after a move. -/
def move (answer : Surroundings σ) (p : Pool σ α) : Move σ → Pool σ α
  | .step i => p.step answer i
  | .drop i => p.drop i
  | .change f => { p with world := f p.world }

/-- The pool after a schedule. -/
def run (answer : Surroundings σ) (p : Pool σ α) (schedule : List (Move σ)) : Pool σ α :=
  schedule.foldl (move answer) p

/-- The results of the tasks, those of finished ones. -/
def results (p : Pool σ α) : List (Option α) := p.tasks.map Task.result?

/-! ## One task at a time -/

/-- A procedure asks everything it asks before the gate, and then to pass it. -/
def toGate (answer : Surroundings σ) (i : Nat) : Procedure α → Pool σ α → Pool σ α
  | .ask .enterGate _, p => p.step answer i
  | .ask q next, p => toGate answer i (next (answer q p.world).1) (p.step answer i)
  | .done _, p => p

/-- A procedure asks everything it has left to ask. -/
def toEnd (answer : Surroundings σ) (i : Nat) : Procedure α → Pool σ α → Pool σ α
  | .ask .enterGate next, p => toEnd answer i (next ()) (p.step answer i)
  | .ask .leaveGate next, p => toEnd answer i (next ()) (p.step answer i)
  | .ask q next, p => toEnd answer i (next (answer q p.world).1) (p.step answer i)
  | .done _, p => p

/-- What the task at a place has left to do. -/
def rest? (p : Pool σ α) (i : Nat) : Option (Procedure α) :=
  match p.tasks[i]? with
  | some (.ready rest) => some rest
  | _ => none

/-- The task at a place goes on by this rule as far as the rule says. -/
def advance (rule : Nat → Procedure α → Pool σ α → Pool σ α) (p : Pool σ α) (i : Nat) : Pool σ α :=
  match p.rest? i with
  | some rest => rule i rest p
  | none => p

/-- All tasks come to the gate in their order, and then go through it one after another. -/
def runInOrder (answer : Surroundings σ) (p : Pool σ α) : Pool σ α :=
  let places := List.range p.tasks.length
  let atGate := places.foldl (advance (toGate answer)) p
  places.foldl (advance (toEnd answer)) atGate

end Pool

end Circulation
