/- # Circulation.Proofs.Pool.Thread -- how one task goes on

Seen from one task, a run is simple, whether or not the pool keeps order at its gate. What the task has
left to do changes only by its own steps: it asks something and goes on with the answer
(`goes_on_of_move`). To be put in line, to be woken or to see others move changes nothing. The
surroundings change by themselves or by what one task asks of them (`world_of_move`).
-/
import Circulation.Proofs.Pool.Orderly

namespace Circulation

/-- What a task has left to do, whether it waits or not. -/
def Task.left? {α : Type} : Task α → Option (Procedure α)
  | ready rest | waiting rest => some rest
  | dropped => none

namespace Pool

variable {σ α : Type} {answer : Surroundings σ} {p : Pool σ α}

/-- What the task at a place has left to do. -/
def left? (p : Pool σ α) (i : Nat) : Option (Procedure α) := p.tasks[i]?.bind Task.left?

/-- The task at a place asks this in its next step. -/
def Asks (p : Pool σ α) (i : Nat) (q : Request) : Prop :=
  ∃ next, p.tasks[i]? = some (.ready (.ask q next))

theorem left?_of_ready {i : Nat} {rest : Procedure α} (here : p.tasks[i]? = some (.ready rest)) :
    p.left? i = some rest := by
  rw [left?, here]
  rfl

/-! ## Changes that leave a task alone -/

theorem left?_setTask_self {i : Nat} {t t₀ : Task α} (here : p.tasks[i]? = some t₀) :
    (p.setTask i t).left? i = t.left? := by
  show ((p.tasks.set i t)[i]?).bind Task.left? = t.left?
  rw [setTask_self t here]
  rfl

theorem left?_setTask_ne {i j : Nat} (ne : j ≠ i) (t : Task α) :
    (p.setTask j t).left? i = p.left? i := by
  show ((p.tasks.set j t)[i]?).bind Task.left? = _
  rw [List.getElem?_set_ne ne]
  rfl

/-- To be woken changes nothing about what is left to do. -/
theorem left?_wake (tasks : List (Task α)) (i j : Nat) :
    ((wake tasks j)[i]?).bind Task.left? = (tasks[i]?).bind Task.left? := by
  unfold wake
  split
  · rename_i rest waits
    by_cases eq : j = i
    · subst eq
      obtain ⟨lt, -⟩ := List.getElem?_eq_some_iff.mp waits
      rw [List.getElem?_set_self lt, waits]
      rfl
    · rw [List.getElem?_set_ne eq]
  · rfl

theorem left?_leaveGate (p : Pool σ α) (i : Nat) : p.leaveGate.left? i = p.left? i := by
  simp only [leaveGate]
  cases p.gate.leave.holder with
  | none => rfl
  | some next => exact left?_wake p.tasks i next

theorem world_leaveGate (p : Pool σ α) : p.leaveGate.world = p.world := by
  simp only [leaveGate]
  cases p.gate.leave.holder <;> rfl

/-! ## Steps -/

/-- A step at the gate: the task goes on, and the surroundings stay as they are. -/
theorem step_gate (answer : Surroundings σ) {i : Nat} {q : Request} {next : q.Answer → Procedure α}
    (here : p.tasks[i]? = some (.ready (.ask q next))) (gate : q.isGate = true) :
    (p.step answer i).world = p.world ∧
      (p.step answer i).left? i = some (next (answer q p.world).1) ∧
      ∀ j, j ≠ i → (p.step answer i).left? j = p.left? j := by
  cases q with
  | enterGate =>
    simp only [step, here]
    split
    · exact ⟨rfl, left?_setTask_self here, fun j ne => left?_setTask_ne ne.symm _⟩
    · exact ⟨rfl, left?_setTask_self here, fun j ne => left?_setTask_ne ne.symm _⟩
  | leaveGate =>
    simp only [step, here]
    refine ⟨world_leaveGate _, ?_, fun j ne => ?_⟩
    · rw [left?_leaveGate]
      exact left?_setTask_self here
    · rw [left?_leaveGate]
      exact left?_setTask_ne ne.symm _
  | _ => cases gate

/-- A step that asks something: the task goes on with the answer, and the others are left alone. -/
theorem left?_step (answer : Surroundings σ) {i : Nat} {q : Request} {next : q.Answer → Procedure α}
    (here : p.tasks[i]? = some (.ready (.ask q next))) :
    (p.step answer i).left? i = some (next (answer q p.world).1) ∧
      ∀ j, j ≠ i → (p.step answer i).left? j = p.left? j := by
  cases gate : q.isGate with
  | true => exact (step_gate answer here gate).2
  | false =>
    rw [(step_ask answer here gate).1]
    exact ⟨left?_setTask_self (t := .ready (next (answer q p.world).1)) here,
      fun j ne => left?_setTask_ne ne.symm _⟩

/-- A step of a task that is not ready, or has nothing left to ask, is none. -/
theorem step_idle {i : Nat}
    (idle : ∀ (q : Request) (next : q.Answer → Procedure α),
      p.tasks[i]? ≠ some (.ready (.ask q next))) :
    p.step answer i = p := by
  cases here : p.tasks[i]? with
  | none => simp only [step, here]
  | some t =>
    cases t with
    | waiting rest => simp only [step, here]
    | dropped => simp only [step, here]
    | ready rest =>
      cases rest with
      | done a => simp only [step, here]
      | ask q next => exact absurd here (idle q next)

/-- When somebody is given up, the others have left to do what they had. -/
theorem left?_drop_ne {i j : Nat} (ne : j ≠ i) : (p.drop j).left? i = p.left? i := by
  simp only [drop]
  split
  · split
    · rw [left?_leaveGate, left?_setTask_ne ne]
    · exact left?_setTask_ne ne _
  · exact left?_setTask_ne ne _
  · rfl

/-- Whoever is given up has nothing left to do, and nothing else changes for anybody. -/
theorem left?_drop {i j : Nat} {rest : Procedure α} (h : (p.drop j).left? i = some rest) :
    p.left? i = some rest := by
  by_cases eq : j = i
  · subst eq
    -- Whoever is given up has nothing left.
    have nothing {t₀ : Task α} (here : p.tasks[j]? = some t₀) :
        (p.setTask j .dropped).left? j = none := left?_setTask_self here
    simp only [drop] at h
    split at h
    · rename_i here
      split at h
      · rw [left?_leaveGate, nothing here] at h
        cases h
      · rw [nothing here] at h
        cases h
    · rename_i here
      cases (nothing here).symm.trans h
    · exact h
  · rwa [left?_drop_ne eq] at h

theorem world_drop (p : Pool σ α) (j : Nat) : (p.drop j).world = p.world := by
  simp only [drop]
  split
  · split
    · exact world_leaveGate _
    · rfl
  · rfl
  · rfl

/-! ## Moves -/

/-- What a task has left to do after a move, it had left before, or it has gone on with an answer by a
step of its own. -/
theorem goes_on_of_move {m : Move σ} {i : Nat} {rest : Procedure α}
    (h : (p.move answer m).left? i = some rest) :
    p.left? i = some rest ∨ m = .step i ∧ ∃ (q : Request) (next : q.Answer → Procedure α),
      p.tasks[i]? = some (.ready (.ask q next)) ∧ rest = next (answer q p.world).1 := by
  cases m with
  | change f => exact .inl h
  | drop j => exact .inl (left?_drop h)
  | step j =>
    have h : (p.step answer j).left? i = some rest := h
    by_cases asks : ∃ (q : Request) (next : q.Answer → Procedure α),
        p.tasks[j]? = some (.ready (.ask q next))
    · obtain ⟨q, next, here⟩ := asks
      obtain ⟨own, others⟩ := left?_step answer here
      by_cases eq : i = j
      · subst eq
        rw [own] at h
        exact .inr ⟨rfl, q, next, here, (Option.some.inj h).symm⟩
      · rw [others i eq] at h
        exact .inl h
    · rw [step_idle fun q next here => asks ⟨q, next, here⟩] at h
      exact .inl h

/-- The surroundings stay as they are in a move, or change by themselves, or by what one task asks. -/
theorem world_of_move (answer : Surroundings σ) (p : Pool σ α) (m : Move σ) :
    (p.move answer m).world = p.world ∨
      (∃ f, m = .change f ∧ (p.move answer m).world = f p.world) ∨
      ∃ i q, m = .step i ∧ p.Asks i q ∧ (p.move answer m).world = (answer q p.world).2 := by
  cases m with
  | change f => exact .inr (.inl ⟨f, rfl, rfl⟩)
  | drop j => exact .inl (world_drop p j)
  | step j =>
    by_cases asks : ∃ (q : Request) (next : q.Answer → Procedure α),
        p.tasks[j]? = some (.ready (.ask q next))
    · obtain ⟨q, next, here⟩ := asks
      cases gate : q.isGate with
      | true => exact .inl (step_gate answer here gate).1
      | false =>
        refine .inr (.inr ⟨j, q, rfl, ⟨next, here⟩, ?_⟩)
        show (p.step answer j).world = _
        rw [(step_ask answer here gate).1]
    · refine .inl ?_
      show (p.step answer j).world = _
      rw [step_idle fun q next here => asks ⟨q, next, here⟩]

/-! ## What a task has asked -/

/-- What the task at a place has asked of the surroundings, in order. -/
def asksOf (h : List (Happening σ)) (i : Nat) : List Request :=
  h.filterMap fun
    | .asked j q _ => if j = i then some q else none
    | .admitted _ => none

theorem asksOf_append (h x : List (Happening σ)) (i : Nat) :
    asksOf (h ++ x) i = asksOf h i ++ asksOf x i := List.filterMap_append

theorem asksOf_asked (i j : Nat) (q : Request) (s : σ) :
    asksOf [.asked j q s] i = if j = i then [q] else [] := by
  by_cases eq : j = i <;> simp [asksOf, eq]

/-- In a move a task asks something and goes on with the answer, or it asks nothing and has left to do
what it had, or is given up. -/
theorem thread_of_move (answer : Surroundings σ) (p : Pool σ α) (m : Move σ) (i : Nat) :
    asksOf (p.happenings m) i = [] ∧
        ((p.move answer m).left? i = p.left? i ∨ (p.move answer m).left? i = none) ∨
      ∃ (q : Request) (next : q.Answer → Procedure α), p.tasks[i]? = some (.ready (.ask q next)) ∧
        asksOf (p.happenings m) i = (if q.isGate then [] else [q]) ∧
        (p.move answer m).left? i = some (next (answer q p.world).1) := by
  have nobody (waiting : List Nat) :
      asksOf ((waiting.head?.map Happening.admitted).toList : List (Happening σ)) i = [] := by
    cases waiting <;> rfl
  cases m with
  | change f => exact .inl ⟨rfl, .inl rfl⟩
  | drop j =>
    refine .inl ⟨?_, ?_⟩
    · simp only [happenings]
      split
      · split
        · exact nobody p.gate.waiting
        · rfl
      · rfl
    · cases left_ : (p.drop j).left? i with
      | none => exact .inr left_
      | some rest => exact .inl (left_.trans (left?_drop left_).symm)
  | step j =>
    by_cases asks : ∃ (q : Request) (next : q.Answer → Procedure α),
        p.tasks[j]? = some (.ready (.ask q next))
    · obtain ⟨q, next, here⟩ := asks
      obtain ⟨own, others⟩ := left?_step answer here
      have asked : asksOf (p.happenings (.step j)) i =
          if q.isGate then [] else if j = i then [q] else [] := by
        cases gate : q.isGate with
        | false =>
          rw [(step_ask answer here gate).2, asksOf_asked]
          simp
        | true =>
          cases q with
          | enterGate =>
            simp only [happenings, here]
            split <;> rfl
          | leaveGate =>
            simp only [happenings, here]
            exact nobody p.gate.waiting
          | _ => cases gate
      by_cases eq : j = i
      · subst eq
        rw [if_pos rfl] at asked
        exact .inr ⟨q, next, here, asked, own⟩
      · rw [if_neg eq, ite_self] at asked
        exact .inl ⟨asked, .inl (others i (Ne.symm eq))⟩
    · refine .inl ⟨?_, .inl ?_⟩
      · have quiet : p.happenings (.step j) = [] := by
          simp only [happenings]
          split
          · rename_i here
            exact absurd ⟨_, _, here⟩ asks
          · rename_i here
            exact absurd ⟨_, _, here⟩ asks
          · rename_i here
            exact absurd ⟨_, _, here⟩ asks
          · rfl
        rw [quiet]
        rfl
      · show (p.step answer j).left? i = _
        rw [step_idle fun q next here => asks ⟨q, next, here⟩]

/-- A relation between what a task has asked and what it has left to do, that every answer keeps, is
kept throughout a run. Of a task that is given up it holds for what was left at that moment. -/
theorem thread_of_run {P : List Request → Procedure α → Prop}
    (ask : ∀ {asked : List Request} {q : Request} {next : q.Answer → Procedure α},
      P asked (.ask q next) → ∀ a, P (asked ++ if q.isGate then [] else [q]) (next a))
    {i : Nat} {asked : List Request} {rest : Procedure α} (begun : P asked rest)
    (here : ∀ r, p.left? i = some r → r = rest) (schedule : List (Move σ)) :
    ∃ rest', P (asked ++ asksOf (p.history answer schedule) i) rest' ∧
      ∀ r, (p.run answer schedule).left? i = some r → r = rest' := by
  induction schedule generalizing p asked rest with
  | nil =>
    refine ⟨rest, ?_, here⟩
    show P (asked ++ []) rest
    rwa [List.append_nil]
  | cons m later ih =>
    show ∃ rest', P (asked ++ asksOf (p.happenings m ++ (p.move answer m).history answer later) i)
      rest' ∧ ∀ r, ((p.move answer m).run answer later).left? i = some r → r = rest'
    rw [asksOf_append, ← List.append_assoc]
    rcases thread_of_move answer p m i with ⟨quiet, same⟩ | ⟨q, next, there, asks, onward⟩
    · rw [quiet, List.append_nil]
      refine ih begun fun r left_ => ?_
      rcases same with same | gone
      · exact here r (same.symm.trans left_)
      · cases gone.symm.trans left_
    · cases here _ (left?_of_ready there)
      rw [asks]
      exact ih (ask begun _) fun r left_ => (Option.some.inj (onward.symm.trans left_)).symm

/-- What a procedure keeps with every answer, what is left of it keeps throughout a run. -/
theorem left?_run {P : Procedure α → Prop}
    (kept : ∀ {q : Request} {next : q.Answer → Procedure α}, P (.ask q next) → ∀ a, P (next a))
    {i : Nat} (begun : ∀ rest, p.left? i = some rest → P rest) (schedule : List (Move σ))
    {rest : Procedure α} (here : (p.run answer schedule).left? i = some rest) : P rest := by
  induction schedule generalizing p with
  | nil => exact begun rest here
  | cons m later ih =>
    refine ih (p := p.move answer m) (fun rest here => ?_) here
    rcases goes_on_of_move here with before | ⟨-, q, next, asks, rfl⟩
    · exact begun rest before
    · exact kept (begun _ (left?_of_ready asks)) _

/-! ## The number of tasks -/

theorem length_leaveGate (p : Pool σ α) : p.leaveGate.tasks.length = p.tasks.length := by
  simp only [leaveGate]
  cases p.gate.leave.holder with
  | none => rfl
  | some next =>
    show (wake p.tasks next).length = _
    unfold wake
    split
    · exact List.length_set
    · rfl

/-- No task comes or goes. -/
theorem length_move (p : Pool σ α) (m : Move σ) :
    (p.move answer m).tasks.length = p.tasks.length := by
  have set : ∀ i t, (p.setTask i t).tasks.length = p.tasks.length := fun i t => List.length_set
  cases m with
  | change f => rfl
  | drop i =>
    simp only [move, drop]
    split
    · split
      · rw [length_leaveGate, set]
      · exact set i .dropped
    · exact set i .dropped
    · rfl
  | step i =>
    simp only [move, step]
    split
    · split <;> exact set i _
    · rw [length_leaveGate, set]
    · exact set i _
    · rfl

theorem length_run (p : Pool σ α) (schedule : List (Move σ)) :
    (p.run answer schedule).tasks.length = p.tasks.length := by
  induction schedule generalizing p with
  | nil => rfl
  | cons m rest ih => exact (ih (p.move answer m)).trans (length_move p m)

end Pool

end Circulation
