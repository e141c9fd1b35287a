/- # Circulation.Proofs.Pool.Rest -- every pool comes to rest

A pool is at rest when no task can ask anything. A step that asks something leaves its task with less
to do, in the order in which a procedure is followed by what is left of it once its first request is
answered, so no pool goes on for ever (`wellFounded_goes`). And a pool at rest is not stuck: nobody
waits before a free gate, and under a discipline whoever holds the gate has something to ask, so that
everybody who was not given up is done (`Discipline.Kept.result_of_atRest`).
-/
import Circulation.Proofs.Pool.Passage
import Circulation.Proofs.Pool.Thread
import Mathlib.Logic.Hydra

namespace Circulation

namespace Procedure

variable {α : Type}

/-- What is left of a procedure when its first request is answered. -/
inductive Follows : Procedure α → Procedure α → Prop
  | mk {q : Request} (next : q.Answer → Procedure α) (a : q.Answer) : Follows (next a) (.ask q next)

theorem wellFounded_follows : WellFounded (@Follows α) := by
  refine ⟨fun p => ?_⟩
  induction p with
  | done a =>
    refine ⟨_, fun later h => ?_⟩
    cases h
  | ask q next ih =>
    refine ⟨_, fun later h => ?_⟩
    cases h with
    | mk _ a => exact ih a

end Procedure

namespace Pool

open Procedure (Follows wellFounded_follows)

variable {σ α : Type} {answer : Surroundings σ} {p p' : Pool σ α}

/-- No task can ask anything. -/
def AtRest (p : Pool σ α) : Prop := ∀ i q, ¬p.Asks i q

/-- The pool has gone on by a step that asked something. -/
def Goes (answer : Surroundings σ) (later earlier : Pool σ α) : Prop :=
  ∃ i q, earlier.Asks i q ∧ later = earlier.step answer i

/-! ## No pool goes on for ever -/

/-- What is left to do, of all tasks. -/
def lefts (p : Pool σ α) : Multiset (Procedure α) :=
  ((List.range p.tasks.length).filterMap p.left? : List (Procedure α))

/-- What one task has left can be told apart from what the others have. -/
theorem lefts_eq_cons {i : Nat} {rest : Procedure α} (here : p.left? i = some rest) :
    p.lefts = rest ::ₘ ((List.range p.tasks.length).erase i).filterMap p.left? := by
  obtain ⟨task, there, -⟩ := Option.bind_eq_some_iff.mp here
  obtain ⟨lt, -⟩ := List.getElem?_eq_some_iff.mp there
  have apart := (List.perm_cons_erase (List.mem_range.mpr lt)).filterMap p.left?
  rw [List.filterMap_cons_some here] at apart
  exact Multiset.coe_eq_coe.mpr apart

theorem cutExpand_of_goes (h : Goes answer p' p) : Relation.CutExpand Follows p'.lefts p.lefts := by
  obtain ⟨i, q, ⟨next, here⟩, rfl⟩ := h
  obtain ⟨own, others⟩ := left?_step answer here
  have before : p.left? i = some (.ask q next) := left?_of_ready here
  -- Nobody else has more or less to do than before.
  have same : ((List.range (p.step answer i).tasks.length).erase i).filterMap
      (p.step answer i).left? = ((List.range p.tasks.length).erase i).filterMap p.left? := by
    rw [show (p.step answer i).tasks.length = p.tasks.length from length_move p (.step i)]
    refine List.filterMap_congr fun j mem => others j ?_
    exact ((List.nodup_range.mem_erase_iff).mp mem).1
  rw [lefts_eq_cons own, lefts_eq_cons before, same, ← Multiset.singleton_add,
    ← Multiset.singleton_add]
  exact Relation.cutExpand_single_add (.mk next _) _

/-- No pool goes on for ever. -/
theorem wellFounded_goes (answer : Surroundings σ) : WellFounded (@Goes σ α answer) :=
  Subrelation.wf cutExpand_of_goes (InvImage.wf lefts wellFounded_follows.cutExpand)

/-- At every moment the pool can be brought to rest. -/
theorem exists_atRest (answer : Surroundings σ) (p : Pool σ α) :
    ∃ order : List Nat, (p.run answer (order.map .step)).AtRest := by
  induction p using (wellFounded_goes answer).induction with
  | _ p ih =>
    by_cases rest : p.AtRest
    · exact ⟨[], rest⟩
    · simp only [AtRest, not_forall, not_not] at rest
      obtain ⟨i, q, asks⟩ := rest
      obtain ⟨order, rests⟩ := ih _ ⟨i, q, asks, rfl⟩
      exact ⟨i :: order, rests⟩

/-! ## The line before the gate -/

/-- Whoever waits stands in line. -/
def Listed (p : Pool σ α) : Prop :=
  ∀ (i : Nat) (rest : Procedure α), p.tasks[i]? = some (.waiting rest) → i ∈ p.gate.waiting

/-- One task and the line change together. -/
theorem Listed.set (l : p.Listed) {i : Nat} {t t₀ : Task α} {world : σ} {gate : Gate Nat}
    (here : p.tasks[i]? = some t₀) (own : ∀ rest, t = .waiting rest → i ∈ gate.waiting)
    (others : ∀ j, j ≠ i → j ∈ p.gate.waiting → j ∈ gate.waiting) :
    (⟨world, gate, p.tasks.set i t⟩ : Pool σ α).Listed := by
  intro j rest waits
  by_cases eq : j = i
  · subst eq
    exact own rest (Option.some.inj ((setTask_self t here).symm.trans waits))
  · exact others j eq (l j rest ((List.getElem?_set_ne (Ne.symm eq)).symm.trans waits))

theorem Listed.turn {may : Move σ → Prop} {x : List (Happening σ)} (l : p.Listed)
    (h : Turn answer may p x p') : p'.Listed := by
  cases h with
  | change => exact l
  | ask here => exact l.set here (by simp) fun _ _ mem => mem
  | queue here =>
    refine l.set here (fun _ _ => ?_) fun _ _ mem => List.mem_append_left _ mem
    exact List.mem_append_right _ (List.mem_singleton_self _)
  | @enter i rest waiting free here =>
    rcases here with ⟨here, rfl⟩ | ⟨here, line⟩
    · exact l.set here (by simp) fun _ _ mem => mem
    · refine l.set here (by simp) fun j ne mem => ?_
      rw [line] at mem
      exact List.mem_of_ne_of_mem ne mem
  | leave here => exact l.set here (by simp) fun _ _ mem => mem
  | abandon _ here => exact l.set here (by simp) fun _ _ mem => mem
  | quit _ here => exact l.set here (by simp) fun _ ne mem => (List.mem_erase_of_ne ne).mpr mem

/-- Nobody stands in line before a free gate. -/
def Attended (p : Pool σ α) : Prop := p.gate.holder = none → p.gate.waiting = []

theorem attended_leaveGate (p : Pool σ α) : p.leaveGate.Attended := by
  unfold Attended
  rw [gate_leaveGate, Gate.leave]
  cases p.gate.waiting with
  | nil => exact fun _ => rfl
  | cons next rest => exact fun free => absurd free (Option.some_ne_none next)

theorem Attended.move (a : p.Attended) (m : Move σ) : (p.move answer m).Attended := by
  cases m with
  | change f => exact a
  | drop i =>
    simp only [Pool.move, drop]
    split
    · split
      · exact attended_leaveGate _
      · exact a
    · intro free
      show p.gate.waiting.erase i = []
      rw [a free, List.erase_nil]
    · exact a
  | step i =>
    simp only [Pool.move, step]
    split
    · intro free
      revert free
      cases held : p.gate.holder <;> simp [Gate.enter, held]
    · exact attended_leaveGate _
    · exact a
    · exact a

theorem Attended.run (a : p.Attended) (schedule : List (Move σ)) :
    (p.run answer schedule).Attended := by
  induction schedule generalizing p with
  | nil => exact a
  | cons m rest ih => exact ih (a.move m)

/-! ## At rest all is over -/

/-- Who is done asks nothing. -/
theorem atRest_of_results (ended : ∀ r ∈ p.results, r.isSome = true) : p.AtRest := by
  rintro i q ⟨next, here⟩
  have mem : (Task.ready (.ask q next)).result? ∈ p.results :=
    List.mem_map_of_mem (List.mem_of_getElem? here)
  exact absurd (ended _ mem) Bool.false_ne_true

/-- A pool at rest that keeps its line has come to an end. -/
theorem Discipline.Kept.done_of_atRest {may : Move σ → Prop} {D : Discipline answer may α}
    (k : D.Kept p) (listed : p.Listed) (attended : p.Attended) (rest : p.AtRest) {i : Nat}
    {left_ : Procedure α} (here : p.left? i = some left_) : ∃ a, p.results[i]? = some (some a) := by
  -- The holder would have to ask at least to leave.
  have free : p.gate.holder = none := by
    refine Option.eq_none_iff_forall_ne_some.mpr fun j held => ?_
    obtain ⟨task, there, inside⟩ := k.inside j held
    obtain ⟨q, next, rfl, -⟩ := D.busy inside
    exact rest j q ⟨next, there⟩
  obtain ⟨task, there, same⟩ := Option.bind_eq_some_iff.mp here
  cases task with
  | dropped => cases same
  | waiting task =>
    have mem := listed i task there
    rw [attended free] at mem
    exact absurd mem List.not_mem_nil
  | ready task =>
    cases task with
    | ask q next => exact absurd ⟨next, there⟩ (rest i q)
    | done a => exact ⟨a, results_eq_some_iff.mpr there⟩

/-- Whoever has something left to do, if only to be done, is not given up by a move that gives up
nobody, or somebody else. -/
theorem isSome_left?_move {m : Move σ} {i : Nat} (kept : m ≠ .drop i)
    (here : (p.left? i).isSome = true) : ((p.move answer m).left? i).isSome = true := by
  cases m with
  | change f => exact here
  | drop j =>
    have ne : j ≠ i := by
      rintro rfl
      exact kept rfl
    show ((p.drop j).left? i).isSome = true
    rw [left?_drop_ne ne]
    exact here
  | step j =>
    show ((p.step answer j).left? i).isSome = true
    by_cases asks : ∃ q, p.Asks j q
    · obtain ⟨q, next, there⟩ := asks
      obtain ⟨own, others⟩ := left?_step answer there
      by_cases eq : i = j
      · subst eq
        rw [own]
        rfl
      · rw [others i eq]
        exact here
    · rw [step_idle fun q next there => asks ⟨q, next, there⟩]
      exact here

theorem isSome_left?_run {schedule : List (Move σ)} {i : Nat} (kept : ∀ m ∈ schedule, m ≠ .drop i)
    (here : (p.left? i).isSome = true) : ((p.run answer schedule).left? i).isSome = true := by
  induction schedule generalizing p with
  | nil => exact here
  | cons m rest ih =>
    exact ih (fun m mem => kept m (List.mem_cons_of_mem _ mem))
      (isSome_left?_move (kept m List.mem_cons_self) here)

/-- However the tasks take turns, at rest everybody who was not given up has a result. -/
theorem Discipline.Kept.result_of_atRest {may : Move σ → Prop} {D : Discipline answer may α}
    {world : σ} {procedures : List (Procedure α)} (k : D.Kept (Pool.start world procedures))
    {schedule : List (Move σ)} (ok : ∀ m ∈ schedule, may m) {i : Nat}
    (kept : ∀ m ∈ schedule, m ≠ .drop i)
    (rest : ((Pool.start world procedures).run answer schedule).AtRest) (lt : i < procedures.length) :
    ∃ a, ((Pool.start world procedures).run answer schedule).results[i]? = some (some a) := by
  have begun : (Pool.start world procedures).Listed := by
    intro j task waits
    obtain ⟨r, -, eq⟩ := ready_of_start waits
    cases eq
  obtain ⟨k, listed⟩ := k.run (P := fun _ p => p.Listed) (fun _ l turn => l.turn turn) ok begun (h := [])
  have here : (Pool.start world procedures).tasks[i]? = some (.ready procedures[i]) := by
    show (procedures.map Task.ready)[i]? = _
    rw [List.getElem?_map, List.getElem?_eq_getElem lt]
    rfl
  have begins : ((Pool.start world procedures).left? i).isSome = true := by
    rw [left?_of_ready here]
    rfl
  obtain ⟨left_, there⟩ := Option.isSome_iff_exists.mp (isSome_left?_run kept begins)
  exact k.done_of_atRest listed (Attended.run (fun _ => rfl) schedule) rest there

/-- So it is in every pool that begins in order. -/
theorem Orderly.result_of_atRest {world : σ} {procedures : List (Procedure α)}
    (orderly : (Pool.start world procedures).Orderly) {schedule : List (Move σ)} {i : Nat}
    (kept : ∀ m ∈ schedule, m ≠ .drop i)
    (rest : ((Pool.start world procedures).run answer schedule).AtRest) (lt : i < procedures.length) :
    ∃ a, ((Pool.start world procedures).run answer schedule).results[i]? = some (some a) := by
  have kept_up : (singlePassage answer (fun _ => True) α).Kept (Pool.start world procedures) :=
    Orderly.kept_iff.mpr orderly
  exact kept_up.result_of_atRest (fun _ _ => trivial) kept rest lt

end Pool

end Circulation
