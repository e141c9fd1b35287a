/- # Circulation.Gate -- one at a time

A gate has at most one holder. Whoever comes while it is held waits behind those who came before;
when the holder leaves, the first of those who still wait holds it. A holder that fails leaves the
gate like one that is done.
-/

namespace Circulation

/-- Who holds the gate, and who waits, in order of arrival. -/
structure Gate (ι : Type) where
  holder : Option ι
  waiting : List ι
deriving DecidableEq

namespace Gate

variable {ι : Type} [DecidableEq ι]

/-- Nobody is there. -/
def empty : Gate ι := ⟨none, []⟩

/-- The gate goes to the first who waits. -/
def pass (waiting : List ι) : Gate ι :=
  match waiting with
  | [] => ⟨none, []⟩
  | next :: rest => ⟨some next, rest⟩

/-- Hold the gate, or wait for it. -/
def enter (g : Gate ι) (who : ι) : Gate ι :=
  match g.holder with
  | none => ⟨some who, g.waiting⟩
  | some _ => { g with waiting := g.waiting ++ [who] }

/-- The holder leaves. -/
def leave (g : Gate ι) : Gate ι := pass g.waiting

/-- Give up waiting. -/
def withdraw (g : Gate ι) (who : ι) : Gate ι := { g with waiting := g.waiting.erase who }

/-- Is this one holding the gate? -/
def holds (g : Gate ι) (who : ι) : Bool := g.holder == some who

/-- Is this one waiting for the gate? -/
def waits (g : Gate ι) (who : ι) : Bool := g.waiting.contains who

/-! ## Steps of visitors -/

/-- How a task that holds the gate can go wrong. -/
inductive Mishap where
  | error
  | panic
deriving DecidableEq

/-- Something that a visitor does. -/
inductive Step (ι : Type) where
  | acquire (who : ι)
  | release (who : ι)
  | cancel (who : ι)
  /-- A task takes the free gate and goes wrong while it holds it. -/
  | fail (who : ι) (how : Mishap)
  /-- The holder goes wrong, whoever waits. -/
  | goWrong (who : ι) (how : Mishap)
deriving DecidableEq

/-- What came of a step. -/
inductive StepAnswer where
  | ok
  /-- The visitor is there already. -/
  | exists_
  | notHeld
  | notWaiting
  /-- The gate was not free. -/
  | busy
  | wentWrong (how : Mishap)
deriving DecidableEq

/-- The answer to a step, and the gate after it. -/
def step (g : Gate ι) : Step ι → StepAnswer × Gate ι
  | .acquire who => if g.holds who || g.waits who then (.exists_, g) else (.ok, g.enter who)
  | .release who => if g.holds who then (.ok, g.leave) else (.notHeld, g)
  | .cancel who => if g.waits who then (.ok, g.withdraw who) else (.notWaiting, g)
  | .fail who how =>
    if g.holder.isSome then (.busy, g) else (.wentWrong how, (g.enter who).leave)
  | .goWrong who how => if g.holds who then (.wentWrong how, g.leave) else (.notHeld, g)

/-- The gate after a sequence of steps. -/
def run (g : Gate ι) (steps : List (Step ι)) : Gate ι := steps.foldl (fun g s => (g.step s).2) g

/-- The answers of a sequence of steps, each with the gate after it. -/
def history (g : Gate ι) : List (Step ι) → List (StepAnswer × Gate ι)
  | [] => []
  | s :: rest => g.step s :: (g.step s).2.history rest

end Gate

end Circulation
