/- # Circulation.Proofs.Pool.Orderly -- procedures that pass the gate once

A procedure that passes the gate at most once, asks for the stores only behind it and leaves it again
is gated. That is a discipline whatever is answered (`singlePassage`), and a pool that keeps it is
orderly: whoever holds the gate is inside, whoever stands in line waits, everybody else has not come to
the gate yet or is past it.
-/
import Circulation.Proofs.Pool.Turn

namespace Circulation

/-! ## Procedures that use a gate -/

namespace Procedure

variable {α β : Type}

/-- Asks only requests of this kind, whatever is answered. -/
inductive Asks (P : Request → Prop) : Procedure α → Prop
  | done (a : α) : Asks P (.done a)
  | ask {q : Request} {next : q.Answer → Procedure α} :
      P q → (∀ a, Asks P (next a)) → Asks P (.ask q next)

theorem Asks.of_ask {P : Request → Prop} {q : Request} {next : q.Answer → Procedure α}
    (h : Asks P (.ask q next)) : P q ∧ ∀ a, Asks P (next a) := by
  cases h with
  | ask asked rest => exact ⟨asked, rest⟩

theorem Asks.andThen {P : Request → Prop} {p : Procedure α} {f : α → Procedure β} (h : Asks P p)
    (rest : ∀ a, Asks P (f a)) : Asks P (p.andThen f) := by
  induction h with
  | done a => exact rest a
  | ask asked _ ih => exact .ask asked ih

theorem Asks.mono {P Q : Request → Prop} {p : Procedure α} (h : Asks P p)
    (weaker : ∀ q, P q → Q q) : Asks Q p := by
  induction h with
  | done a => exact .done a
  | ask asked _ ih => exact .ask (weaker _ asked) ih

/-- Asks only what needs no gate. -/
abbrev Public : Procedure α → Prop := Asks fun q => q.isPublic = true

/-- Holds the gate, leaves it in the end, and is public from then on. -/
inductive Inside : Procedure α → Prop
  | leave {next : Unit → Procedure α} : Public (next ()) → Inside (.ask .leaveGate next)
  | ask {q : Request} {next : q.Answer → Procedure α} :
      q.isGate = false → (∀ a, Inside (next a)) → Inside (.ask q next)

/-- Is before the gate, or has nothing to do with it any more. -/
inductive Gated : Procedure α → Prop
  | outside {p : Procedure α} : Public p → Gated p
  | enter {next : Unit → Procedure α} : Inside (next ()) → Gated (.ask .enterGate next)

/-- Is over from the beginning, or begins with passing the gate. -/
inductive Prompt : Procedure α → Prop
  | ended (a : α) : Prompt (.done a)
  | gate (rest : Procedure α) : Prompt (.ask .enterGate fun _ => rest)

/-- A section that keeps away from the gate, and then leaves it. -/
theorem Inside.of_section {p : Procedure α} {f : α → Procedure β}
    (h : Asks (fun q => q.isGate = false) p) (rest : ∀ a, Inside (f a)) : Inside (p.andThen f) := by
  induction h with
  | done a => exact rest a
  | ask asked _ ih => exact .ask asked ih

theorem Inside.of_ask {q : Request} {next : q.Answer → Procedure α} (h : Inside (.ask q next))
    (plain : q.isGate = false) (a : q.Answer) : Inside (next a) := by
  cases h with
  | leave => exact absurd plain (by simp [Request.isGate])
  | ask _ rest => exact rest a

theorem Inside.of_leave {next : Unit → Procedure α} (h : Inside (.ask .leaveGate next)) :
    Public (next ()) := by
  cases h with
  | leave rest => exact rest
  | ask plain => exact absurd plain (by simp [Request.isGate])

theorem Gated.of_ask {q : Request} {next : q.Answer → Procedure α} (h : Gated (.ask q next))
    (ne : q ≠ .enterGate) : q.isPublic = true ∧ ∀ a, Public (next a) := by
  cases h with
  | outside h => exact h.of_ask
  | enter => exact absurd rfl ne

theorem Gated.of_enter {next : Unit → Procedure α} (h : Gated (.ask .enterGate next)) :
    Inside (next ()) := by
  cases h with
  | outside h => exact absurd h.of_ask.1 (by simp [Request.isPublic])
  | enter inside => exact inside

end Procedure

namespace Pool

variable {σ α : Type}

/-! ## Orderly pools -/

/-- Who holds the gate is inside; who stands in line waits, and stands there once; everybody else
has not come to the gate yet or is past it. -/
structure Orderly (p : Pool σ α) : Prop where
  inside : ∀ i : Nat, p.gate.holder = some i → ∃ rest, p.tasks[i]? = some (.ready rest) ∧ rest.Inside
  queued : ∀ i ∈ p.gate.waiting, ∃ rest, p.tasks[i]? = some (.waiting rest)
  once : p.gate.waiting.Nodup
  entitled : ∀ (i : Nat) (rest : Procedure α), p.tasks[i]? = some (.waiting rest) → rest.Inside
  outside : ∀ (i : Nat) (rest : Procedure α),
    p.gate.holder ≠ some i → p.tasks[i]? = some (.ready rest) → rest.Gated

/-- To pass the gate once is a discipline, whatever is answered and whatever changes. -/
def singlePassage (answer : Surroundings σ) (may : Move σ → Prop) (α : Type) :
    Discipline answer may α where
  fair := fun _ => True
  inside := fun _ _ rest => rest.Inside
  outside := fun _ => Procedure.Gated
  change := fun _ _ => ⟨trivial, fun _ _ inside => inside⟩
  busy := by
    intro i w rest inside
    cases inside with
    | leave => exact ⟨_, _, rfl, by simp⟩
    | ask plain =>
      refine ⟨_, _, rfl, ?_⟩
      rintro rfl
      exact absurd plain (by simp [Request.isGate])
  ask := fun _ inside plain => ⟨trivial, inside.of_ask plain _⟩
  leave := fun inside => .outside inside.of_leave
  enter := fun gated _ => gated.of_enter
  free := by
    intro i w q next _ gated other
    obtain ⟨free, rest⟩ := gated.of_ask other
    exact ⟨free, trivial, .outside (rest _), fun _ _ inside => inside⟩

namespace Orderly

variable {p : Pool σ α} {answer : Surroundings σ} {may : Move σ → Prop}

theorem kept_iff : (singlePassage answer may α).Kept p ↔ p.Orderly := by
  constructor
  · rintro ⟨-, inside, queued, once, entitled, outside⟩
    exact ⟨inside, queued, once, fun i rest here => entitled i rest here p.world trivial, outside⟩
  · rintro ⟨inside, queued, once, entitled, outside⟩
    exact ⟨trivial, inside, queued, once, fun i rest here _ _ => entitled i rest here, outside⟩

theorem start (world : σ) {procedures : List (Procedure α)}
    (gated : ∀ r ∈ procedures, r.Gated) : (Pool.start world procedures).Orderly where
  inside := by
    intro i held
    cases held
  queued := by
    intro i mem
    cases mem
  once := .nil
  entitled := by
    intro i rest here
    obtain ⟨r, -, eq⟩ := ready_of_start here
    cases eq
  outside := by
    intro i rest _ here
    obtain ⟨r, named, eq⟩ := ready_of_start here
    cases eq
    exact gated _ (List.mem_of_getElem? named)

/-- The holder's task, when it is known. -/
theorem inside_of_ready (o : p.Orderly) {i : Nat} {rest : Procedure α}
    (mine : p.gate.holder = some i) (here : p.tasks[i]? = some (.ready rest)) : rest.Inside := by
  obtain ⟨rest', there, inside⟩ := o.inside i mine
  rw [here] at there
  cases there
  exact inside

end Orderly

/-- What every turn of an orderly pool keeps, a run keeps. The invariant may speak of what has happened
so far. -/
theorem run_keep {answer : Surroundings σ} {may : Move σ → Prop}
    {P : List (Happening σ) → Pool σ α → Prop}
    (turn : ∀ {h x : List (Happening σ)} {p p' : Pool σ α},
      p.Orderly → P h p → Turn answer may p x p' → P (h ++ x) p')
    {schedule : List (Move σ)} (ok : ∀ m ∈ schedule, may m) {h : List (Happening σ)}
    {p : Pool σ α} (o : p.Orderly) (holds : P h p) :
    (p.run answer schedule).Orderly ∧ P (h ++ p.history answer schedule) (p.run answer schedule) := by
  obtain ⟨kept, after⟩ := (Orderly.kept_iff.mpr o).run (fun k => turn (Orderly.kept_iff.mp k)) ok holds
  exact ⟨Orderly.kept_iff.mp kept, after⟩

end Pool

end Circulation
