/- # Circulation.Proofs.Lending.Routine -- work where nothing fails

Where no fault is switched on, a section behind the gate can be disturbed by nobody, so it ends with a
verdict that another try would not change: what it found before it found still when it came to write
(`Exit.steady`). A procedure that passes the gate only for such sections, as often as it likes, and is
public in between, does routine work. Routine work is a discipline (`Hosts.discipline`): in a pool of
such procedures every section meets the stores as its course says, whatever the schedule and whoever is
given up, so a promise that is kept on condition that verdicts are steady is kept
(`Hosts.routine_of_run`).

The surroundings may be anything that hosts a desk, such as a world in which it stands among transports,
brokers and a log (`hosts_world`).
-/
import Circulation.Proofs.Lending.Delivery
import Circulation.Proofs.Pool.Rest
import Circulation.Rehearsal.World

namespace Circulation

/-! ## Failures that stay -/

/-- Neither did another write come first nor did a store not answer. -/
def Failure.Steady (f : Failure) : Prop :=
  (∀ loan, f ≠ .returnRace loan) ∧ (∀ book, f ≠ .inventoryUpdateRejected book) ∧
    (∀ error, f ≠ .bookStore error) ∧ ∀ error, f ≠ .loanStore error

/-- These are the failures that another try cannot help. -/
theorem Failure.steady_iff {f : Failure} : f.Steady ↔ f.kind = .permanent := by
  cases f <;> simp [Steady, kind]

/-! ## Answers without faults -/

/-- A desk without faults stays without. -/
theorem Desk.faultless_answer {d : Desk} (calm : d.faults = Faults.none) (q : Request) :
    (Desk.answer q d).2.faults = Faults.none := by
  rcases Desk.faults_answer q d with same | used
  · rw [same, calm]
  · rw [used, calm]
    rfl

namespace Rehearsal

/-- No call to the stores is made to fail, by a fault or in front of the stores. -/
def World.Calm (w : World) : Prop := w.desk.faults = Faults.none ∧ w.injection = Injection.none

/-- In front of the stores nothing is held up. -/
theorem World.answer_store {w : World} (calm : w.Calm) (c : StoreCall) :
    World.answer (.store c) w =
      ((Desk.answerStore c w.desk).1, { w with desk := (Desk.answerStore c w.desk).2 }) := by
  have through : w.injection.answer c w.desk = Desk.answerStore c w.desk := by
    rw [calm.2]
    cases c <;> rfl
  simp only [World.answer, through]

end Rehearsal

namespace Lending

/-- If the call has failed, its failure stays. -/
def Steady (r : Except Failure Served) : Prop := ∀ f, r = .error f → f.Steady

/-- Without faults every verdict is steady. -/
theorem Exit.steady {e : Errand} {deed : Deed} {st : Stores} {v : Verdict}
    (exit : Exit (· = Faults.none) e deed st v) : Steady v.answer := by
  -- All that is not permanent is blamed on a fault.
  have blameless {bad : Faults → Prop} (clean : ¬bad Faults.none) :
      ¬∃ s, s = Faults.none ∧ bad s := by
    rintro ⟨s, rfl, flagged⟩
    exact clean flagged
  rintro f failed
  cases exit with
  | refused refusal =>
    cases failed
    exact Failure.steady_iff.mpr refusal.permanent
  | unreachable _ _ faulty => exact absurd faulty (blameless (by simp [Faults.none]))
  | stockUnwritten faulty => exact absurd faulty (blameless (by simp [Faults.none]))
  | raceLost faulty => exact absurd faulty (blameless (by simp [Faults.none]))
  | notRestocked faulty => exact absurd faulty (blameless (by simp [Faults.none]))
  | _ => cases failed

/-! ## Surroundings that host a desk -/

section Hosts

variable {σ α β : Type}

/-- Among surroundings that are calm the stores and the clock are those of a desk without faults, and
whatever else is asked leaves its stores alone and the surroundings calm. -/
structure Hosts (answer : Surroundings σ) (desk : σ → Desk) (calm : σ → Prop) : Prop where
  faultless : ∀ {w : σ}, calm w → (desk w).faults = Faults.none
  inner : ∀ {q : Request} {w : σ}, calm w → q.isInner = true →
    (answer q w).1 = (Desk.answer q (desk w)).1 ∧
      (desk (answer q w).2).stores = (Desk.answer q (desk w)).2.stores
  free : ∀ {q : Request} {w : σ}, calm w → q.isPublic = true →
    (desk (answer q w).2).stores = (desk w).stores
  onward : ∀ {q : Request} {w : σ}, calm w → calm (answer q w).2

/-- The surroundings by themselves leave the stores alone and stay calm; anybody may be given up. -/
def Undisturbing (desk : σ → Desk) (calm : σ → Prop) : Pool.Move σ → Prop
  | .change f => ∀ w, calm w → calm (f w) ∧ (desk (f w)).stores = (desk w).stores
  | .step _ | .drop _ => True

/-- A world to rehearse with hosts its desk. -/
theorem hosts_world : Hosts Rehearsal.World.answer (·.desk) Rehearsal.World.Calm where
  faultless := fun calm => calm.1
  inner := by
    intro q w calm inner
    cases q with
    | store c =>
      rw [Rehearsal.World.answer_store calm]
      exact ⟨rfl, rfl⟩
    | readClock => exact ⟨rfl, rfl⟩
    | note n s => exact ⟨rfl, rfl⟩
    | _ => exact absurd inner Bool.false_ne_true
  free := by
    intro q w _ free
    cases q with
    | send transport topic body =>
      simp only [Rehearsal.World.answer]
      split <;> rfl
    | store c => exact absurd free Bool.false_ne_true
    | _ => rfl
  onward := by
    intro q w calm
    cases q with
    | store c =>
      rw [Rehearsal.World.answer_store calm]
      exact ⟨Desk.faultless_answer calm.1 (.store c), calm.2⟩
    | send transport topic body =>
      simp only [Rehearsal.World.answer]
      split <;> exact calm
    | _ => exact calm

/-! ## Routine work -/

/-- Passes the gate only for sections that keep to their course if nothing fails, and is public in
between; asks only what may be asked there, and has a result that is fine, as long as all its verdicts
are steady. -/
inductive Routine (ok : Request → Prop) (fine : α → Prop) : Procedure α → Prop
  | done {a : α} (meets : fine a) : Routine ok fine (.done a)
  | ask {q : Request} {next : q.Answer → Procedure α} (free : q.isPublic = true) (meets : ok q)
      (rest : ∀ a, Routine ok fine (next a)) : Routine ok fine (.ask q next)
  | call {e : Errand} {p : Procedure Verdict} {k : Verdict → Procedure α}
      (course : ∀ st, Course (· = Faults.none) e (.nothing none) st p) (inner : Inner p)
      (rest : ∀ v : Verdict, Steady v.answer → Routine ok fine (k v)) :
      Routine ok fine (.ask .enterGate fun _ => p.andThen fun v => .ask .leaveGate fun _ => k v)

/-- What is left of a routine section behind the gate, with what comes after it. -/
inductive Engaged (ok : Request → Prop) (fine : α → Prop) (st : Stores) : Procedure α → Prop
  | mk {e : Errand} {deed : Deed} {p : Procedure Verdict} {k : Verdict → Procedure α}
      (course : Course (· = Faults.none) e deed st p) (inner : Inner p)
      (rest : ∀ v : Verdict, Steady v.answer → Routine ok fine (k v)) :
      Engaged ok fine st (p.andThen fun v => .ask .leaveGate fun _ => k v)

namespace Routine

variable {ok : Request → Prop} {fine : α → Prop} {fine' : β → Prop}

theorem of_done {a : α} (r : Routine ok fine (.done a)) : fine a := by
  cases r with
  | done meets => exact meets

/-- Away from the gate. -/
theorem of_ask {q : Request} {next : q.Answer → Procedure α} (r : Routine ok fine (.ask q next))
    (other : q ≠ .enterGate) : q.isPublic = true ∧ ok q ∧ ∀ a, Routine ok fine (next a) := by
  cases r with
  | ask free meets rest => exact ⟨free, meets, rest⟩
  | call => exact absurd rfl other

/-- At the gate. -/
theorem of_enter {next : Unit → Procedure α} (r : Routine ok fine (.ask .enterGate next))
    (st : Stores) : Engaged ok fine st (next ()) := by
  cases r with
  | ask free => exact absurd free Bool.false_ne_true
  | call course inner rest => exact .mk (course st) inner rest

/-- One after the other. -/
theorem andThen {p : Procedure α} {f : α → Procedure β} (r : Routine ok fine p)
    (rest : ∀ a, fine a → Routine ok fine' (f a)) : Routine ok fine' (p.andThen f) := by
  induction r with
  | done meets => exact rest _ meets
  | ask free meets _ ih => exact .ask free meets ih
  | @call e p k course inner _ ih =>
    have shape : (Procedure.ask .enterGate fun _ => p.andThen fun v =>
          .ask .leaveGate fun _ => k v).andThen f =
        .ask .enterGate fun _ => p.andThen fun v => .ask .leaveGate fun _ => (k v).andThen f := by
      simp only [Procedure.ask_andThen, Procedure.andThen_assoc]
    rw [shape]
    exact .call course inner ih

/-- Marking its notices does not matter to routine work. -/
theorem within {p : Procedure α} (r : Routine ok fine p)
    (notes : ∀ n s s', ok (.note n s) → ok (.note n s')) (span : Span) :
    Routine ok fine (p.within span) := by
  induction r with
  | done meets => exact .done meets
  | @ask q next free meets _ ih =>
    cases q with
    | note n s =>
      cases s with
      | none => exact .ask rfl (notes n none _ meets) ih
      | some s => exact .ask free meets ih
    | _ => exact .ask free meets ih
  | @call e p k course inner _ ih =>
    have shape : (Procedure.ask .enterGate fun _ => p.andThen fun v =>
          .ask .leaveGate fun _ => k v).within span =
        .ask .enterGate fun _ => (p.within span).andThen fun v =>
          .ask .leaveGate fun _ => (k v).within span := by
      show Procedure.ask .enterGate (fun _ => (p.andThen fun v =>
        .ask .leaveGate fun _ => k v).within span) = _
      rw [Procedure.andThen_within]
      rfl
    rw [shape]
    exact .call (fun st => (course st).within span) (inner.within (fun _ _ _ sober => sober) span) ih

/-- What is public and asks only what may be asked. -/
theorem of_asks {p : Procedure α} (asks : p.Asks fun q => q.isPublic = true ∧ ok q)
    (meets : ∀ a, fine a) : Routine ok fine p := by
  induction asks with
  | done a => exact .done (meets a)
  | ask asked _ ih => exact .ask asked.1 asked.2 ih

end Routine

namespace Engaged

variable {ok : Request → Prop} {fine : α → Prop} {st : Stores}

/-- Whoever is engaged asks to leave the gate, or something that is asked behind it, and stays engaged
whatever the desk with these stores answers. -/
theorem cases_ask {q : Request} {next : q.Answer → Procedure α}
    (h : Engaged ok fine st (.ask q next)) :
    (q = .leaveGate ∧ ∀ a, Routine ok fine (next a)) ∨
      q.isInner = true ∧ isSober q = true ∧ ∀ d : Desk, d.stores = st → d.faults = Faults.none →
        Engaged ok fine (Desk.answer q d).2.stores (next (Desk.answer q d).1) := by
  generalize whole : Procedure.ask q next = rest at h
  cases h with
  | @mk e deed p k course inner rest =>
    cases course with
    | @done deed st v exit =>
      injection whole with asked same
      subst asked
      refine .inl ⟨rfl, fun a => ?_⟩
      rw [eq_of_heq same]
      exact rest v exit.steady
    | ask first _ onward =>
      injection whole with asked same
      subst asked
      obtain ⟨sober, later⟩ := inner.of_ask
      refine .inr ⟨first, sober, fun d here calm => ?_⟩
      rw [eq_of_heq same]
      exact .mk (onward d here calm) (later _) rest

/-- Whoever is engaged has something to ask. -/
theorem busy {rest : Procedure α} (h : Engaged ok fine st rest) :
    ∃ (q : Request) (next : q.Answer → Procedure α), rest = .ask q next ∧ q ≠ .enterGate := by
  cases h with
  | mk course =>
    cases course with
    | done => exact ⟨_, _, rfl, by simp⟩
    | ask inner =>
      refine ⟨_, _, rfl, ?_⟩
      rintro rfl
      exact absurd inner Bool.false_ne_true

end Engaged

namespace Hosts

variable {answer : Surroundings σ} {desk : σ → Desk} {calm : σ → Prop}

/-- Routine work is a discipline, for each task with what it may ask and come to. -/
def discipline (hosts : Hosts answer desk calm) (ok : Nat → Request → Prop) (fine : Nat → α → Prop) :
    Pool.Discipline answer (Undisturbing desk calm) α where
  fair := calm
  inside := fun i w rest => Engaged (ok i) (fine i) (desk w).stores rest
  outside := fun i rest => Routine (ok i) (fine i) rest
  change := by
    intro f w undisturbing fair
    obtain ⟨calm, same⟩ := undisturbing w fair
    refine ⟨calm, fun i rest engaged => ?_⟩
    rw [same]
    exact engaged
  busy := Engaged.busy
  ask := by
    intro i w q next fair engaged plain
    rcases engaged.cases_ask with ⟨rfl, -⟩ | ⟨inner, -, onward⟩
    · exact absurd plain.symm Bool.false_ne_true
    · obtain ⟨answered, same⟩ := hosts.inner fair inner
      refine ⟨hosts.onward fair, ?_⟩
      rw [answered, same]
      exact onward (desk w) rfl (hosts.faultless fair)
  leave := by
    intro i w next engaged
    rcases engaged.cases_ask with ⟨-, rest⟩ | ⟨inner, -⟩
    · exact rest ()
    · exact absurd inner Bool.false_ne_true
  enter := fun routine _ => routine.of_enter _
  free := by
    intro i w q next fair routine other
    obtain ⟨free, -, rest⟩ := routine.of_ask other
    refine ⟨free, hosts.onward fair, rest _, fun j rest' engaged => ?_⟩
    rw [hosts.free fair free]
    exact engaged

variable {ok : Nat → Request → Prop} {fine : Nat → α → Prop} {procedures : List (Procedure α)} {w : σ}

theorem discipline_start (hosts : Hosts answer desk calm) (begun : calm w)
    (routine : ∀ (i : Nat) (r : Procedure α), procedures[i]? = some r → Routine (ok i) (fine i) r) :
    (hosts.discipline ok fine).Kept (Pool.start w procedures) :=
  .start (D := hosts.discipline ok fine) begun routine

/-- However the tasks take turns and whoever is given up, those that do routine work ask what they may
ask, and come to results that are fine. -/
theorem routine_of_run (hosts : Hosts answer desk calm) (begun : calm w)
    (sober : ∀ i q, isSober q = true → ok i q)
    (routine : ∀ (i : Nat) (r : Procedure α), procedures[i]? = some r → Routine (ok i) (fine i) r)
    {schedule : List (Pool.Move σ)} (any : ∀ m ∈ schedule, Undisturbing desk calm m) :
    (∀ i, ∀ q ∈ Pool.asksOf ((Pool.start w procedures).history answer schedule) i, ok i q) ∧
      ∀ i a, ((Pool.start w procedures).run answer schedule).results[i]? = some (some a) → fine i a := by
  let Meets (h : List (Happening σ)) (_ : Pool σ α) : Prop := ∀ i, ∀ q ∈ Pool.asksOf h i, ok i q
  have meets_turn : ∀ {h x : List (Happening σ)} {p p' : Pool σ α},
      (hosts.discipline ok fine).Kept p → Meets h p →
        Pool.Turn answer (Undisturbing desk calm) p x p' → Meets (h ++ x) p' := by
    intro h x p p' kept meets turn i q mem
    rw [Pool.asksOf_append] at mem
    rcases List.mem_append.mp mem with old | new
    · exact meets i q old
    · cases turn with
      | @ask j q' next here plain =>
        rw [Pool.asksOf_asked] at new
        by_cases eq : j = i
        · subst eq
          rw [if_pos rfl, List.mem_singleton] at new
          subst new
          -- Behind the gate the section asks, outside the routine.
          by_cases mine : p.gate.holder = some j
          · have engaged : Engaged (ok j) (fine j) (desk p.world).stores (.ask q next) :=
              kept.inside_of_ready mine here
            rcases engaged.cases_ask with ⟨rfl, -⟩ | ⟨-, soberly, -⟩
            · exact absurd plain.symm Bool.false_ne_true
            · exact sober j q soberly
          · have routine : Routine (ok j) (fine j) (.ask q next) := kept.outside j _ mine here
            refine (routine.of_ask ?_).2.1
            rintro rfl
            exact absurd plain.symm Bool.false_ne_true
        · rw [if_neg eq] at new
          exact absurd new List.not_mem_nil
      | _ => exact absurd new List.not_mem_nil
  have start := hosts.discipline_start begun routine
  obtain ⟨kept, meets⟩ := start.run (P := Meets) meets_turn any (h := []) fun _ _ mem => by cases mem
  refine ⟨meets, fun i a ended => ?_⟩
  have here := Pool.results_eq_some_iff.mp ended
  by_cases mine : ((Pool.start w procedures).run answer schedule).gate.holder = some i
  · obtain ⟨q, next, eq, -⟩ := kept.busy_of_ready mine here
    cases eq
  · have routine : Routine (ok i) (fine i) (.done a) := kept.outside i _ mine here
    exact routine.of_done

end Hosts

end Hosts

end Lending

end Circulation
