/- # Circulation.Proofs.Pool.Turn -- what can happen in a pool

A discipline says, task by task, where the holder of the gate is at, which may depend on the
surroundings, and where everybody else is at; every answer keeps it, and so does every change that the
surroundings make by themselves. A pool whose tasks begin under a discipline stays under it: whoever
holds the gate is inside, whoever stands in line waits, everybody else keeps away from what the gate
protects. Under a discipline a move is a sequence of at most two turns, and there are seven kinds of
turns. An invariant of runs is proved by going through the seven.

What happened during a run is kept as its history: what was asked of the surroundings, and to whom
the gate went.
-/
import Circulation.Pool

namespace Circulation

namespace Request

/-- The gate is passed or left. -/
def isGate : Request → Bool
  | .enterGate | .leaveGate => true
  | _ => false

/-- Needs no gate: neither passes or leaves it nor asks for the stores. -/
def isPublic : Request → Bool
  | .enterGate | .leaveGate | .store _ => false
  | _ => true

/-- Asked behind the gate: the stores, the clock, or nothing but to take notice. -/
def isInner : Request → Bool
  | .store _ | .readClock | .note .. => true
  | _ => false

end Request

/-! ## History -/

/-- What happens in a pool, as far as others can notice it. -/
inductive Happening (σ : Type) where
  /-- A task asked something of the surroundings as it found them. -/
  | asked (task : Nat) (request : Request) (found : σ)
  /-- The gate went to a task. -/
  | admitted (task : Nat)

namespace Pool

variable {σ α : Type}

/-- The gate goes to the first in line, if somebody waits. -/
def nextIn (p : Pool σ α) : List (Happening σ) := (p.gate.waiting.head?.map .admitted).toList

/-- What happens in a move. -/
def happenings (p : Pool σ α) : Move σ → List (Happening σ)
  | .step i =>
    match p.tasks[i]? with
    | some (.ready (.ask .enterGate _)) => if p.gate.holder.isNone then [.admitted i] else []
    | some (.ready (.ask .leaveGate _)) => p.nextIn
    | some (.ready (.ask q _)) => [.asked i q p.world]
    | _ => []
  | .drop i =>
    match p.tasks[i]? with
    | some (.ready _) => if p.gate.holds i then p.nextIn else []
    | _ => []
  | .change _ => []

/-- What happens during a schedule, in order. -/
def history (answer : Surroundings σ) (p : Pool σ α) : List (Move σ) → List (Happening σ)
  | [] => []
  | m :: rest => p.happenings m ++ (p.move answer m).history answer rest

@[simp]
theorem setTask_self {p : Pool σ α} {i : Nat} {t₀ : Task α} (t : Task α)
    (here : p.tasks[i]? = some t₀) : (p.tasks.set i t)[i]? = some t := by
  obtain ⟨lt, -⟩ := List.getElem?_eq_some_iff.mp here
  exact List.getElem?_set_self lt

/-- At the start every task is ready with its procedure. -/
theorem ready_of_start {world : σ} {procedures : List (Procedure α)} {i : Nat} {t : Task α}
    (here : (Pool.start world procedures).tasks[i]? = some t) :
    ∃ r, procedures[i]? = some r ∧ t = .ready r := by
  obtain ⟨r, named, eq⟩ := Option.map_eq_some_iff.mp ((List.getElem?_map ..).symm.trans here)
  exact ⟨r, named, eq.symm⟩

/-! ## Turns -/

/-- One thing that happens in a pool whose moves are restricted. -/
inductive Turn (answer : Surroundings σ) (may : Move σ → Prop) (p : Pool σ α) :
    List (Happening σ) → Pool σ α → Prop
  /-- The surroundings change by themselves. -/
  | change {f : σ → σ} (ok : may (.change f)) : Turn answer may p [] { p with world := f p.world }
  /-- A task asks the surroundings. Who does not hold the gate asks what needs no gate. -/
  | ask {i : Nat} {q : Request} {next : q.Answer → Procedure α}
      (here : p.tasks[i]? = some (.ready (.ask q next))) (plain : q.isGate = false)
      (mine : p.gate.holder = some i ∨ q.isPublic = true) :
      Turn answer may p [.asked i q p.world]
        { p.setTask i (.ready (next (answer q p.world).1)) with world := (answer q p.world).2 }
  /-- A task finds the gate held and waits. -/
  | queue {i : Nat} {next : Unit → Procedure α}
      (here : p.tasks[i]? = some (.ready (.ask .enterGate next)))
      (held : p.gate.holder.isNone = false) (away : p.gate.holder ≠ some i) :
      Turn answer may p []
        { p.setTask i (.waiting (next ())) with
          gate := ⟨p.gate.holder, p.gate.waiting ++ [i]⟩ }
  /-- The free gate goes to a task that has just come, or to the first in line. -/
  | enter {i : Nat} {rest : Procedure α} {waiting : List Nat} (free : p.gate.holder = none)
      (here : (p.tasks[i]? = some (.ready (.ask .enterGate fun _ => rest)) ∧
          p.gate.waiting = waiting) ∨
        (p.tasks[i]? = some (.waiting rest) ∧ p.gate.waiting = i :: waiting)) :
      Turn answer may p [.admitted i] { p.setTask i (.ready rest) with gate := ⟨some i, waiting⟩ }
  /-- The holder leaves the gate. -/
  | leave {i : Nat} {next : Unit → Procedure α}
      (here : p.tasks[i]? = some (.ready (.ask .leaveGate next)))
      (mine : p.gate.holder = some i) :
      Turn answer may p []
        { p.setTask i (.ready (next ())) with gate := ⟨none, p.gate.waiting⟩ }
  /-- The holder is given up. -/
  | abandon {i : Nat} {rest : Procedure α} (ok : may (.drop i))
      (here : p.tasks[i]? = some (.ready rest)) (mine : p.gate.holder = some i) :
      Turn answer may p [] { p.setTask i .dropped with gate := ⟨none, p.gate.waiting⟩ }
  /-- Somebody else is given up. -/
  | quit {i : Nat} {t : Task α} (ok : may (.drop i)) (here : p.tasks[i]? = some t)
      (away : p.gate.holder ≠ some i) :
      Turn answer may p [] { p.setTask i .dropped with gate := p.gate.withdraw i }

/-- Turns in a row, with what happens in them. -/
inductive Turns (answer : Surroundings σ) (may : Move σ → Prop) :
    Pool σ α → List (Happening σ) → Pool σ α → Prop
  | refl (p : Pool σ α) : Turns answer may p [] p
  | step {p p' p'' : Pool σ α} {x y : List (Happening σ)} :
      Turn answer may p x p' → Turns answer may p' y p'' → Turns answer may p (x ++ y) p''

theorem Turns.single {answer : Surroundings σ} {may : Move σ → Prop} {p p' : Pool σ α}
    {x : List (Happening σ)} (h : Turn answer may p x p') : Turns answer may p x p' := by
  rw [← List.append_nil x]
  exact .step h (.refl p')

/-! ## Disciplines -/

/-- How the tasks at their places behave at the gate: where the holder is at among these surroundings,
and where everybody else is at. -/
structure Discipline (answer : Surroundings σ) (may : Move σ → Prop) (α : Type) where
  /-- The surroundings are as they must be. -/
  fair : σ → Prop
  inside : Nat → σ → Procedure α → Prop
  outside : Nat → Procedure α → Prop
  /-- The surroundings may change by themselves. -/
  change : ∀ {f : σ → σ} {w : σ}, may (.change f) → fair w →
    fair (f w) ∧ ∀ i rest, inside i w rest → inside i (f w) rest
  /-- The holder is not done, and does not come to the gate again. -/
  busy : ∀ {i : Nat} {w : σ} {rest : Procedure α}, inside i w rest →
    ∃ (q : Request) (next : q.Answer → Procedure α), rest = .ask q next ∧ q ≠ .enterGate
  /-- The holder goes on. -/
  ask : ∀ {i : Nat} {w : σ} {q : Request} {next : q.Answer → Procedure α}, fair w →
    inside i w (.ask q next) → q.isGate = false →
      fair (answer q w).2 ∧ inside i (answer q w).2 (next (answer q w).1)
  leave : ∀ {i : Nat} {w : σ} {next : Unit → Procedure α}, inside i w (.ask .leaveGate next) →
    outside i (next ())
  enter : ∀ {i : Nat} {w : σ} {next : Unit → Procedure α}, outside i (.ask .enterGate next) → fair w →
    inside i w (next ())
  /-- Whoever does not hold the gate asks what needs none, and does not disturb the holder. -/
  free : ∀ {i : Nat} {w : σ} {q : Request} {next : q.Answer → Procedure α}, fair w →
    outside i (.ask q next) → q ≠ .enterGate →
      q.isPublic = true ∧ fair (answer q w).2 ∧ outside i (next (answer q w).1) ∧
        ∀ j rest, inside j w rest → inside j (answer q w).2 rest

namespace Discipline

variable {answer : Surroundings σ} {may : Move σ → Prop} {D : Discipline answer may α}
  {p p' : Pool σ α}

/-- Who holds the gate is inside; who stands in line waits, and stands there once; everybody else is
outside. -/
structure Kept (D : Discipline answer may α) (p : Pool σ α) : Prop where
  fair : D.fair p.world
  inside : ∀ i : Nat, p.gate.holder = some i →
    ∃ rest, p.tasks[i]? = some (.ready rest) ∧ D.inside i p.world rest
  queued : ∀ i ∈ p.gate.waiting, ∃ rest, p.tasks[i]? = some (.waiting rest)
  once : p.gate.waiting.Nodup
  /-- Who waits will be inside, among whatever surroundings. -/
  entitled : ∀ (i : Nat) (rest : Procedure α), p.tasks[i]? = some (.waiting rest) →
    ∀ w, D.fair w → D.inside i w rest
  outside : ∀ (i : Nat) (rest : Procedure α),
    p.gate.holder ≠ some i → p.tasks[i]? = some (.ready rest) → D.outside i rest

namespace Kept

theorem start {world : σ} (fair : D.fair world) {procedures : List (Procedure α)}
    (outside : ∀ (i : Nat) (r : Procedure α), procedures[i]? = some r → D.outside i r) :
    D.Kept (Pool.start world procedures) where
  fair := fair
  inside := by
    intro i held
    cases held
  queued := by
    intro i mem
    cases mem
  once := .nil
  entitled := by
    intro i rest here
    obtain ⟨r, -, eq⟩ := ready_of_start here
    cases eq
  outside := by
    intro i rest _ here
    obtain ⟨r, named, eq⟩ := ready_of_start here
    cases eq
    exact outside i _ named

/-- One task, the gate and the surroundings change together. The conditions are about that task, and
say that nobody else comes to the gate or into the line, and that another holder is not disturbed. -/
theorem set (k : D.Kept p) {i : Nat} {t t₀ : Task α} {world : σ} {gate : Gate Nat}
    (here : p.tasks[i]? = some t₀) (fair : D.fair world)
    (holder : ∀ j, gate.holder = some j →
      (j = i ∧ ∃ rest, t = .ready rest ∧ D.inside i world rest) ∨
      (j ≠ i ∧ p.gate.holder = some j ∧ ∀ rest, D.inside j p.world rest → D.inside j world rest))
    (waiting : ∀ j ∈ gate.waiting,
      (j = i ∧ ∃ rest, t = .waiting rest) ∨ (j ≠ i ∧ j ∈ p.gate.waiting))
    (once : gate.waiting.Nodup)
    (entitled : ∀ rest, t = .waiting rest → ∀ w, D.fair w → D.inside i w rest)
    (outside : ∀ rest, gate.holder ≠ some i → t = .ready rest → D.outside i rest)
    (others : ∀ j, j ≠ i → p.gate.holder = some j → gate.holder = some j) :
    D.Kept (⟨world, gate, p.tasks.set i t⟩ : Pool σ α) where
  -- Each part is about the task that changed, by the conditions, or about another, as before.
  fair := fair
  inside := by
    intro j held
    rcases holder j held with ⟨rfl, rest, rfl, inside⟩ | ⟨ne, held, undisturbed⟩
    · exact ⟨rest, setTask_self _ here, inside⟩
    · rw [List.getElem?_set_ne ne.symm]
      obtain ⟨rest, there, inside⟩ := k.inside j held
      exact ⟨rest, there, undisturbed rest inside⟩
  queued := by
    intro j mem
    rcases waiting j mem with ⟨rfl, rest, rfl⟩ | ⟨ne, mem⟩
    · exact ⟨rest, setTask_self _ here⟩
    · rw [List.getElem?_set_ne ne.symm]
      exact k.queued j mem
  once := once
  entitled := by
    intro j rest there
    by_cases eq : j = i
    · subst eq
      rw [setTask_self t here] at there
      exact entitled rest (Option.some.inj there)
    · rw [List.getElem?_set_ne (Ne.symm eq)] at there
      exact k.entitled j rest there
  outside := by
    intro j rest away there
    by_cases eq : j = i
    · subst eq
      rw [setTask_self t here] at there
      exact outside rest away (Option.some.inj there)
    · rw [List.getElem?_set_ne (Ne.symm eq)] at there
      exact k.outside j rest (fun held => away (others j eq held)) there

/-- The holder's task, when it is known. -/
theorem inside_of_ready (k : D.Kept p) {i : Nat} {rest : Procedure α}
    (mine : p.gate.holder = some i) (here : p.tasks[i]? = some (.ready rest)) :
    D.inside i p.world rest := by
  obtain ⟨rest', there, inside⟩ := k.inside i mine
  rw [here] at there
  cases there
  exact inside

/-- A task that is ready does not stand in line. -/
theorem not_queued (k : D.Kept p) {i : Nat} {rest : Procedure α}
    (here : p.tasks[i]? = some (.ready rest)) : i ∉ p.gate.waiting := by
  intro mem
  obtain ⟨rest', there⟩ := k.queued i mem
  rw [here] at there
  cases there

/-- A task that waits does not hold the gate. -/
theorem not_held (k : D.Kept p) {i : Nat} {rest : Procedure α}
    (here : p.tasks[i]? = some (.waiting rest)) : p.gate.holder ≠ some i := by
  intro mine
  obtain ⟨rest', there, -⟩ := k.inside i mine
  rw [here] at there
  cases there

/-- The holder is not done, and does not come to the gate again. -/
theorem busy_of_ready (k : D.Kept p) {i : Nat} {rest : Procedure α}
    (mine : p.gate.holder = some i) (here : p.tasks[i]? = some (.ready rest)) :
    ∃ (q : Request) (next : q.Answer → Procedure α), rest = .ask q next ∧ q ≠ .enterGate :=
  D.busy (k.inside_of_ready mine here)

/-- Somebody asks the surroundings. -/
theorem ask (k : D.Kept p) {i : Nat} {q : Request} {next : q.Answer → Procedure α}
    (here : p.tasks[i]? = some (.ready (.ask q next))) (plain : q.isGate = false) :
    D.Kept { p.setTask i (.ready (next (answer q p.world).1)) with world := (answer q p.world).2 } := by
  have apart : ∀ j ∈ p.gate.waiting, j ≠ i := by
    rintro j mem rfl
    exact k.not_queued here mem
  by_cases mine : p.gate.holder = some i
  · obtain ⟨fair, inside⟩ := D.ask k.fair (k.inside_of_ready mine here) plain
    refine k.set here fair (fun j held => ?_) (fun j mem => .inr ⟨apart j mem, mem⟩) k.once (by simp)
      (fun _ away => absurd mine away) (fun j _ held => held)
    have same : j = i := Option.some.inj (held.symm.trans mine)
    exact .inl ⟨same, _, rfl, inside⟩
  · have ne : q ≠ .enterGate := by
      rintro rfl
      exact absurd plain (by simp [Request.isGate])
    obtain ⟨-, fair, outside, undisturbed⟩ := D.free k.fair (k.outside i _ mine here) ne
    refine k.set here fair (fun j held => .inr ⟨?_, held, undisturbed j⟩)
      (fun j mem => .inr ⟨apart j mem, mem⟩) k.once (by simp) ?_ (fun j _ held => held)
    · rintro rfl
      exact mine held
    · rintro rest - ⟨⟩
      exact outside

/-- Somebody waits behind those who came before. -/
theorem queue (k : D.Kept p) {i : Nat} {next : Unit → Procedure α}
    (here : p.tasks[i]? = some (.ready (.ask .enterGate next))) (away : p.gate.holder ≠ some i) :
    D.Kept ({ p.setTask i (.waiting (next ())) with
      gate := ⟨p.gate.holder, p.gate.waiting ++ [i]⟩ } : Pool σ α) := by
  have mem_append : ∀ j ∈ p.gate.waiting ++ [i], j = i ∨ (j ≠ i ∧ j ∈ p.gate.waiting) := by
    intro j mem
    rcases List.mem_append.mp mem with old | new
    · refine .inr ⟨?_, old⟩
      rintro rfl
      exact k.not_queued here old
    · exact .inl (List.mem_singleton.mp new)
  refine k.set here k.fair (fun j held => .inr ⟨?_, held, fun _ inside => inside⟩)
    (fun j mem => ?_) ?_ ?_ (by simp) (fun j _ held => held)
  · rintro rfl
    exact away held
  · rcases mem_append j mem with eq | old
    · exact .inl ⟨eq, next (), rfl⟩
    · exact .inr old
  · refine List.nodup_append.mpr ⟨k.once, by simp, ?_⟩
    intro a mem b eq
    rw [List.mem_singleton.mp eq]
    rintro rfl
    exact k.not_queued here mem
  · rintro rest ⟨⟩ w fair
    exact D.enter (k.outside i _ away here) fair

/-- Somebody who has come, or the first in line, holds the free gate. -/
theorem enter (k : D.Kept p) {i : Nat} {rest : Procedure α} {waiting : List Nat}
    (free : p.gate.holder = none)
    (here : (p.tasks[i]? = some (.ready (.ask .enterGate fun _ => rest)) ∧ p.gate.waiting = waiting) ∨
      (p.tasks[i]? = some (.waiting rest) ∧ p.gate.waiting = i :: waiting)) :
    D.Kept ({ p.setTask i (.ready rest) with gate := ⟨some i, waiting⟩ } : Pool σ α) := by
  have away : p.gate.holder ≠ some i := by simp [free]
  -- Whoever is left in line is somebody else: nobody stands there twice.
  have line : ∀ j ∈ waiting, j ≠ i ∧ j ∈ p.gate.waiting := by
    intro j mem
    rcases here with ⟨here, rfl⟩ | ⟨here, eq⟩
    · refine ⟨?_, mem⟩
      rintro rfl
      exact k.not_queued here mem
    · have once := k.once
      rw [eq] at once ⊢
      refine ⟨?_, List.mem_cons_of_mem i mem⟩
      rintro rfl
      exact (List.nodup_cons.mp once).1 mem
  have once : waiting.Nodup := by
    rcases here with ⟨-, rfl⟩ | ⟨-, eq⟩
    · exact k.once
    · exact (List.nodup_cons.mp (eq ▸ k.once)).2
  have inside : D.inside i p.world rest := by
    rcases here with ⟨here, -⟩ | ⟨here, -⟩
    · exact D.enter (k.outside i _ away here) k.fair
    · exact k.entitled i rest here p.world k.fair
  obtain ⟨t₀, there⟩ : ∃ t₀, p.tasks[i]? = some t₀ := by
    rcases here with ⟨here, -⟩ | ⟨here, -⟩ <;> exact ⟨_, here⟩
  refine k.set there k.fair ?_ (fun j mem => .inr (line j mem)) once (by simp) ?_ ?_
  · rintro j ⟨⟩
    exact .inl ⟨rfl, rest, rfl, inside⟩
  · intro rest' away
    exact absurd rfl away
  · intro j _ held
    rw [free] at held
    cases held

/-- Every turn keeps the discipline. -/
theorem turn {x : List (Happening σ)} (k : D.Kept p) (h : Turn answer may p x p') : D.Kept p' := by
  cases h with
  | @change f ok =>
    obtain ⟨fair, undisturbed⟩ := D.change ok k.fair
    refine ⟨fair, fun i held => ?_, k.queued, k.once, k.entitled, k.outside⟩
    obtain ⟨rest, there, inside⟩ := k.inside i held
    exact ⟨rest, there, undisturbed i rest inside⟩
  | ask here plain => exact k.ask here plain
  | queue here _ away => exact k.queue here away
  | enter free here => exact k.enter free here
  | @leave i next here mine =>
    -- The gate is free for a moment; the first in line comes to it in a turn of its own.
    refine k.set here k.fair (by simp) (fun j mem => .inr ⟨?_, mem⟩) k.once (by simp) ?_ ?_
    · rintro rfl
      exact k.not_queued here mem
    · rintro rest - ⟨⟩
      exact D.leave (k.inside_of_ready mine here)
    · intro j ne held
      exact absurd (Option.some.inj (held.symm.trans mine)) ne
  | @abandon i rest ok here mine =>
    refine k.set here k.fair (by simp) (fun j mem => .inr ⟨?_, mem⟩) k.once (by simp) (by simp) ?_
    · rintro rfl
      exact k.not_queued here mem
    · intro j ne held
      exact absurd (Option.some.inj (held.symm.trans mine)) ne
  | @quit i t ok here away =>
    refine k.set here k.fair (fun j held => .inr ⟨?_, held, fun _ inside => inside⟩)
      (fun j mem => .inr ?_) (k.once.erase i) (by simp) (by simp) (fun j _ held => held)
    · rintro rfl
      exact away held
    · exact (List.Nodup.mem_erase_iff k.once).mp mem

end Kept

end Discipline

/-! ## Moves as turns -/

/-- A step of a task that asks the surroundings. -/
theorem step_ask {p : Pool σ α} (answer : Surroundings σ) {i : Nat} {q : Request}
    {next : q.Answer → Procedure α} (here : p.tasks[i]? = some (.ready (.ask q next)))
    (plain : q.isGate = false) :
    p.step answer i =
        { p.setTask i (.ready (next (answer q p.world).1)) with world := (answer q p.world).2 } ∧
      p.happenings (.step i) = [.asked i q p.world] := by
  simp only [step, happenings, here]
  cases q <;> first | exact ⟨rfl, rfl⟩ | exact absurd plain (by simp [Request.isGate])

namespace Discipline.Kept

variable {answer : Surroundings σ} {may : Move σ → Prop} {D : Discipline answer may α} {p : Pool σ α}

/-- After the holder is gone the gate goes to the first in line. -/
theorem turns_leaveGate (k : D.Kept p) (gone : ∀ i, p.gate.holder ≠ some i) :
    Turns answer may p p.nextIn p.leaveGate := by
  obtain ⟨world, ⟨holder, waiting⟩, tasks⟩ := p
  have free : holder = none := Option.eq_none_iff_forall_ne_some.mpr gone
  subst free
  cases waiting with
  | nil => exact .refl _
  | cons i waiting =>
    obtain ⟨rest, here⟩ := k.queued i List.mem_cons_self
    have pass : leaveGate ⟨world, ⟨none, i :: waiting⟩, tasks⟩ =
        ⟨world, ⟨some i, waiting⟩, tasks.set i (.ready rest)⟩ := by
      simp only [leaveGate, Gate.leave, Gate.pass, wake]
      rw [here]
    rw [pass]
    exact .single (.enter rfl (.inr ⟨here, rfl⟩))

/-- The holder leaves, and the gate goes on. -/
theorem turns_vacate {i : Nat} {t : Task α}
    (h : Turn answer may p [] { p.setTask i t with gate := ⟨none, p.gate.waiting⟩ })
    (k : D.Kept p) : Turns answer may p p.nextIn (p.setTask i t).leaveGate := by
  have vacated : ({ p.setTask i t with gate := ⟨none, p.gate.waiting⟩ } : Pool σ α).leaveGate =
      (p.setTask i t).leaveGate := rfl
  rw [← vacated]
  exact .step h ((k.turn h).turns_leaveGate (by simp))

/-- To give somebody up is a sequence of turns. -/
theorem turns_drop {i : Nat} (k : D.Kept p) (ok : may (.drop i)) :
    Turns answer may p (p.happenings (.drop i)) (p.drop i) := by
  simp only [happenings, drop]
  cases here : p.tasks[i]? with
  | none => exact .refl p
  | some t =>
    cases t with
    | dropped => exact .refl p
    | waiting rest => exact .single (.quit ok here (k.not_held here))
    | ready rest =>
      by_cases mine : p.gate.holder = some i
      · have holds : p.gate.holds i = true := by simp [Gate.holds, mine]
        simp only [holds, if_true]
        exact k.turns_vacate (.abandon ok here mine)
      · -- A task that is ready does not wait, so withdrawing it from the line changes nothing.
        have away : p.gate.holds i = false := by simpa [Gate.holds] using mine
        have line : p.gate.withdraw i = p.gate := by
          simp [Gate.withdraw, List.erase_of_not_mem (k.not_queued here)]
        simp only [away, Bool.false_eq_true, if_false]
        have turn : Turn answer may p [] { p.setTask i .dropped with gate := p.gate.withdraw i } :=
          .quit ok here mine
        rw [line] at turn
        exact .single turn

/-- A step is a sequence of turns. -/
theorem turns_step (k : D.Kept p) (i : Nat) :
    Turns answer may p (p.happenings (.step i)) (p.step answer i) := by
  cases here : p.tasks[i]? with
  | none =>
    simp only [happenings, step, here]
    exact .refl p
  | some t =>
    cases t with
    | dropped =>
      simp only [happenings, step, here]
      exact .refl p
    | waiting rest =>
      simp only [happenings, step, here]
      exact .refl p
    | ready rest =>
      cases rest with
      | done a =>
        simp only [happenings, step, here]
        exact .refl p
      | ask q next =>
        by_cases plain : q.isGate = false
        · obtain ⟨step_eq, asked⟩ := step_ask answer here plain
          rw [step_eq, asked]
          refine .single (.ask here plain ?_)
          -- Without the gate a procedure asks nothing that needs it.
          by_cases mine : p.gate.holder = some i
          · exact .inl mine
          · refine .inr (D.free k.fair (k.outside i _ mine here) ?_).1
            rintro rfl
            exact absurd plain (by simp [Request.isGate])
        · cases q with
          | leaveGate =>
            -- Only who holds the gate comes to the point of leaving it.
            have mine : p.gate.holder = some i := by
              refine Decidable.byContradiction fun away => ?_
              have := (D.free k.fair (k.outside i _ away here) (by simp)).1
              simp [Request.isPublic] at this
            simp only [happenings, step, here]
            exact k.turns_vacate (.leave here mine)
          | enterGate =>
            -- Who holds the gate does not come to it again.
            have away : p.gate.holder ≠ some i := by
              intro mine
              obtain ⟨q, next', eq, other⟩ := k.busy_of_ready mine here
              injection eq with same
              exact other same.symm
            simp only [happenings, step, here]
            cases free : p.gate.holder with
            | none =>
              have line : p.gate.enter i = ⟨some i, p.gate.waiting⟩ := by simp [Gate.enter, free]
              simp only [Option.isNone_none, if_true, line]
              exact .single (.enter free (.inl ⟨here, rfl⟩))
            | some j =>
              have line : p.gate.enter i = ⟨p.gate.holder, p.gate.waiting ++ [i]⟩ := by
                simp [Gate.enter, free]
              simp only [Option.isNone_some, Bool.false_eq_true, if_false, line]
              exact .single (.queue here (by simp [free]) away)
          | _ => exact absurd rfl plain

/-- A move is a sequence of turns. -/
theorem turns_move {m : Move σ} (k : D.Kept p) (ok : may m) :
    Turns answer may p (p.happenings m) (p.move answer m) := by
  cases m with
  | change f => exact .single (.change ok)
  | drop i => exact k.turns_drop ok
  | step i => exact k.turns_step i

/-! ## Invariants of runs -/

variable {P : List (Happening σ) → Pool σ α → Prop}

/-- What every turn under a discipline keeps, turns in a row keep. The invariant may speak of what has
happened so far. -/
theorem turns (k : D.Kept p)
    (turn : ∀ {h x : List (Happening σ)} {p p' : Pool σ α},
      D.Kept p → P h p → Turn answer may p x p' → P (h ++ x) p')
    {h x : List (Happening σ)} {p' : Pool σ α} (holds : P h p) (row : Turns answer may p x p') :
    D.Kept p' ∧ P (h ++ x) p' := by
  induction row generalizing h with
  | refl => exact ⟨k, by simpa using holds⟩
  | step first _ ih =>
    rw [← List.append_assoc]
    exact ih (k.turn first) (turn k holds first)

/-- What every turn under a discipline keeps, a run keeps. -/
theorem run (k : D.Kept p)
    (turn : ∀ {h x : List (Happening σ)} {p p' : Pool σ α},
      D.Kept p → P h p → Turn answer may p x p' → P (h ++ x) p')
    {schedule : List (Move σ)} (ok : ∀ m ∈ schedule, may m) {h : List (Happening σ)}
    (holds : P h p) :
    D.Kept (p.run answer schedule) ∧ P (h ++ p.history answer schedule) (p.run answer schedule) := by
  induction schedule generalizing h p with
  | nil =>
    rw [history, List.append_nil]
    exact ⟨k, holds⟩
  | cons m rest ih =>
    -- A move is some turns, and what has happened in them belongs to what went before.
    obtain ⟨k', holds'⟩ := k.turns turn holds (k.turns_move (ok m List.mem_cons_self))
    have after := ih k' (fun m mem => ok m (List.mem_cons_of_mem _ mem)) holds'
    rw [List.append_assoc] at after
    exact after

end Discipline.Kept

end Pool

end Circulation
