/- # Circulation.Procedure -- sequences of requests

A procedure is finished with a result, or asks something and goes on according to the answer. It is
data, so it can be run to its end by any surroundings (`Procedure.run`), one request at a time, or
not at all. `within` marks the notices of a procedure with the command they belong to.
-/
import Circulation.Request

namespace Circulation

/-- A finished result, or a request with what to do for each answer. -/
inductive Procedure (α : Type) where
  | done (result : α)
  | ask (request : Request) (next : request.Answer → Procedure α)

namespace Procedure

variable {α β γ : Type}

/-! ## Sequencing -/

/-- First one procedure, then another that depends on its result. -/
def andThen : Procedure α → (α → Procedure β) → Procedure β
  | done a, f => f a
  | ask q next, f => ask q fun answer => (next answer).andThen f

instance : Monad Procedure where
  pure := done
  bind := andThen

theorem done_andThen (a : α) (f : α → Procedure β) : (done a).andThen f = f a := rfl

theorem ask_andThen (q : Request) (next : q.Answer → Procedure α) (f : α → Procedure β) :
    (ask q next).andThen f = ask q fun answer => (next answer).andThen f := rfl

theorem andThen_done (p : Procedure α) : p.andThen done = p := by
  induction p with
  | done a => rfl
  | ask q next ih =>
    rw [ask_andThen]
    congr
    funext answer
    exact ih answer

theorem andThen_assoc (p : Procedure α) (f : α → Procedure β) (g : β → Procedure γ) :
    (p.andThen f).andThen g = p.andThen fun a => (f a).andThen g := by
  induction p with
  | done a => rfl
  | ask q next ih =>
    simp only [ask_andThen]
    congr
    funext answer
    exact ih answer

instance : LawfulMonad Procedure :=
  LawfulMonad.mk' Procedure
    (fun p => andThen_done p)
    (fun _ _ => rfl)
    (fun p f g => andThen_assoc p f g)

/-! ## Single requests -/

/-- The procedure that asks one thing. -/
def request (q : Request) : Procedure q.Answer := ask q done

/-- Give a notice. -/
def note (n : Notice) : Procedure Unit := request (.note n none)

/-- Read the clock. -/
def readClock : Procedure Time.Instant := request .readClock

/-! ## Notices of a command -/

/-- The procedure with its notices marked; notices that are marked already stay as they are. -/
def within (span : Span) : Procedure α → Procedure α
  | done a => done a
  | ask (.note n none) next => ask (.note n (some span)) fun answer => (next answer).within span
  | ask q next => ask q fun answer => (next answer).within span

/-! ## Running -/

/-- The result and the state of the surroundings when a procedure is run without a pause. -/
def run {σ : Type} (answer : Surroundings σ) : Procedure α → σ → α × σ
  | done a, s => (a, s)
  | ask q next, s =>
    let (a, s') := answer q s
    (next a).run answer s'

theorem run_andThen {σ : Type} (answer : Surroundings σ) (p : Procedure α) (f : α → Procedure β)
    (s : σ) :
    (p.andThen f).run answer s = (f (p.run answer s).1).run answer (p.run answer s).2 := by
  induction p generalizing s with
  | done a => rfl
  | ask q next ih => exact ih _ _

end Procedure

/-- A procedure that may fail. -/
abbrev Attempt (ε α : Type) := ExceptT ε Procedure α

namespace Attempt

variable {α ε : Type}

/-- The value, or the failure for there being none. -/
def need (failure : ε) : Option α → Attempt ε α
  | some a => pure a
  | none => throw failure

/-- A procedure with an answer that may be an error, the error put in the caller's terms. -/
def ofAnswer {δ : Type} (wrap : δ → ε) (p : Procedure (Except δ α)) : Attempt ε α :=
  ExceptT.mk do
    match ← p with
    | .ok a => return .ok a
    | .error e => return .error (wrap e)

/-- The value of a computation that may have failed. -/
def ofExcept {δ : Type} (wrap : δ → ε) : Except δ α → Attempt ε α
  | .ok a => pure a
  | .error e => throw (wrap e)

end Attempt

end Circulation
