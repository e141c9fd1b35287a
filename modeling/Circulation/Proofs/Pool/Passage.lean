/- # Circulation.Proofs.Pool.Passage -- how a task comes through the gate

Whoever is admitted holds the gate from then on, until it leaves by a step of its own or is given up
(`Orderly.parts_of_move`). So somebody who was admitted in a run, and does not hold the gate in the
end, has parted from it at one definite moment of the run (`exists_parting`). What is true of a call
when it leaves can then be told of the pool as it was at that moment.
-/
import Circulation.Proofs.Pool.Serial

namespace Circulation.Pool

variable {σ α : Type} {answer : Surroundings σ}

/-! ## Runs in pieces -/

theorem run_append (p : Pool σ α) (earlier later : List (Move σ)) :
    p.run answer (earlier ++ later) = (p.run answer earlier).run answer later :=
  List.foldl_append

theorem history_append (p : Pool σ α) (earlier later : List (Move σ)) :
    p.history answer (earlier ++ later) =
      p.history answer earlier ++ (p.run answer earlier).history answer later := by
  induction earlier generalizing p with
  | nil => rfl
  | cons m rest ih =>
    show p.happenings m ++ (p.move answer m).history answer (rest ++ later) = _
    rw [ih, ← List.append_assoc]
    rfl

/-- A run of an orderly pool ends orderly. -/
theorem Orderly.run {p : Pool σ α} (o : p.Orderly) (schedule : List (Move σ)) :
    (p.run answer schedule).Orderly := by
  let Any : Move σ → Prop := fun _ => True
  have any : ∀ m ∈ schedule, Any m := fun _ _ => trivial
  exact (run_keep (P := fun _ _ => True) (h := []) (fun _ _ _ => trivial) any o trivial).1

/-! ## Coming to hold the gate -/

theorem mem_admissions_iff {h : List (Happening σ)} {i : Nat} :
    i ∈ admissions h ↔ Happening.admitted i ∈ h := by
  rw [admissions, List.mem_filterMap]
  constructor
  · rintro ⟨x, mem, eq⟩
    cases x with
    | admitted j =>
      cases eq
      exact mem
    | asked j q s => cases eq
  · exact fun mem => ⟨_, mem, rfl⟩

/-- Whoever is admitted in a move holds the gate after it. -/
theorem holder_of_admitted {p : Pool σ α} {m : Move σ} {i : Nat}
    (mem : Happening.admitted i ∈ p.happenings m) : (p.move answer m).gate.holder = some i := by
  -- Past a holder who is gone, the gate goes to the first in line.
  have first : Happening.admitted i ∈ p.nextIn → ∀ q : Pool σ α, q.gate = p.gate →
      q.leaveGate.gate.holder = some i := by
    intro mem q same
    simp only [nextIn, Option.mem_toList, Option.map_eq_some_iff] at mem
    obtain ⟨j, head, eq⟩ := mem
    cases eq
    obtain ⟨line, waiting⟩ := List.head?_eq_some_iff.mp head
    simp only [leaveGate, Gate.leave, Gate.pass, same, waiting]
  cases m with
  | change f => exact absurd mem List.not_mem_nil
  | drop j =>
    simp only [happenings] at mem
    simp only [move, drop]
    cases here : p.tasks[j]? with
    | none => simp [here] at mem
    | some t =>
      cases t with
      | ready rest =>
        simp only [here] at mem
        cases holds : p.gate.holds j with
        | true =>
          rw [if_pos holds] at mem
          exact first mem _ rfl
        | false => simp [holds] at mem
      | waiting rest => simp [here] at mem
      | dropped => simp [here] at mem
  | step j =>
    simp only [happenings] at mem
    simp only [move, step]
    cases here : p.tasks[j]? with
    | none => simp [here] at mem
    | some t =>
      cases t with
      | waiting rest => simp [here] at mem
      | dropped => simp [here] at mem
      | ready rest =>
        cases rest with
        | done a => simp [here] at mem
        | ask q next =>
          cases q with
          | enterGate =>
            simp only [here] at mem
            cases free : p.gate.holder with
            | none =>
              simp only [free, Option.isNone_none, if_true, List.mem_singleton,
                Happening.admitted.injEq] at mem
              subst mem
              simp [Gate.enter, free]
            | some k => simp [free] at mem
          | leaveGate =>
            simp only [here] at mem
            exact first mem _ rfl
          | _ => simp [here] at mem

/-- Whoever was admitted in a run has held the gate at some time. -/
theorem held_of_admitted {p : Pool σ α} {schedule : List (Move σ)} {i : Nat}
    (mem : Happening.admitted i ∈ p.history answer schedule) :
    ∃ earlier later, schedule = earlier ++ later ∧
      (p.run answer earlier).gate.holder = some i := by
  induction schedule generalizing p with
  | nil => exact absurd mem List.not_mem_nil
  | cons m rest ih =>
    rcases List.mem_append.mp mem with now | later
    · exact ⟨[m], rest, rfl, holder_of_admitted now⟩
    · obtain ⟨before, after, eq, held⟩ := ih later
      exact ⟨m :: before, after, by rw [eq]; rfl, held⟩

/-! ## Before and after -/

/-- A task has its result when nothing is left to ask. -/
theorem results_eq_some_iff {p : Pool σ α} {i : Nat} {a : α} :
    p.results[i]? = some (some a) ↔ p.tasks[i]? = some (.ready (.done a)) := by
  rw [results, List.getElem?_map, Option.map_eq_some_iff]
  constructor
  · rintro ⟨t, here, result⟩
    rw [here]
    cases t with
    | ready rest =>
      cases rest with
      | done b =>
        cases result
        rfl
      | ask q next => cases result
    | waiting rest => cases result
    | dropped => cases result
  · exact fun here => ⟨_, here, rfl⟩

/-- Who was not admitted is at its beginning, or waits, or was given up. Who was admitted holds the
gate, or is past it, or was given up. -/
structure Progress (procedures : List (Procedure α)) (h : List (Happening σ)) (p : Pool σ α) :
    Prop where
  fresh : ∀ (i : Nat) (t : Task α), Happening.admitted i ∉ h → p.tasks[i]? = some t →
    (∃ r, procedures[i]? = some r ∧ t = .ready r) ∨
      (∃ rest, procedures[i]? = some (.ask .enterGate fun _ => rest) ∧ t = .waiting rest) ∨
      t = .dropped
  past : ∀ (i : Nat) (t : Task α), Happening.admitted i ∈ h → p.gate.holder ≠ some i →
    p.tasks[i]? = some t → (∃ rest, t = .ready rest ∧ rest.Public) ∨ t = .dropped

namespace Progress

variable {procedures : List (Procedure α)} {h h' : List (Happening σ)} {p : Pool σ α}

theorem start (world : σ) (procedures : List (Procedure α)) :
    Progress procedures [] (Pool.start world procedures) where
  fresh := by
    intro i t _ here
    exact .inl (ready_of_start here)
  past := by
    intro i t mem
    exact absurd mem List.not_mem_nil

/-- Who asks anything but to pass the gate was admitted. -/
theorem admitted_of_ask (g : Progress procedures h p) (prompt : ∀ r ∈ procedures, r.Prompt)
    {i : Nat} {q : Request} {next : q.Answer → Procedure α}
    (here : p.tasks[i]? = some (.ready (.ask q next))) (other : q ≠ .enterGate) :
    Happening.admitted i ∈ h := by
  by_contra away
  rcases g.fresh i _ away here with ⟨r, named, eq⟩ | ⟨rest, -, eq⟩ | eq
  · have begins := prompt r (List.mem_of_getElem? named)
    rw [← Task.ready.inj eq] at begins
    cases begins
    exact other rfl
  · cases eq
  · cases eq

/-- Who comes to the gate, or waits there, was not admitted before. -/
theorem not_admitted_of_comer (g : Progress procedures h p) {i : Nat} {rest : Procedure α}
    (away : p.gate.holder ≠ some i)
    (here : p.tasks[i]? = some (.ready (.ask .enterGate fun _ => rest)) ∨
      p.tasks[i]? = some (.waiting rest)) : Happening.admitted i ∉ h := by
  intro mem
  rcases here with here | here
  · rcases g.past i _ mem away here with ⟨rest', eq, free⟩ | eq
    · cases eq
      exact absurd free.of_ask.1 Bool.false_ne_true
    · cases eq
  · rcases g.past i _ mem away here with ⟨rest', eq, -⟩ | eq <;> cases eq

/-- One task and the gate change together. The conditions are about that task, and say that nobody
else loses the gate or is admitted. -/
theorem set (g : Progress procedures h p) {i : Nat} {t t₀ : Task α} {world : σ} {gate : Gate Nat}
    (here : p.tasks[i]? = some t₀)
    (admitted : ∀ j, j ≠ i → (Happening.admitted j ∈ h' ↔ Happening.admitted j ∈ h))
    (fresh : Happening.admitted i ∉ h' →
      (∃ r, procedures[i]? = some r ∧ t = .ready r) ∨
        (∃ rest, procedures[i]? = some (.ask .enterGate fun _ => rest) ∧ t = .waiting rest) ∨
        t = .dropped)
    (past : Happening.admitted i ∈ h' → gate.holder ≠ some i →
      (∃ rest, t = .ready rest ∧ rest.Public) ∨ t = .dropped)
    (others : ∀ j, j ≠ i → p.gate.holder = some j → gate.holder = some j) :
    Progress procedures h' ⟨world, gate, p.tasks.set i t⟩ where
  fresh := by
    intro j t' away there
    by_cases eq : j = i
    · subst eq
      rw [setTask_self t here] at there
      exact Option.some.inj there ▸ fresh away
    · rw [List.getElem?_set_ne (Ne.symm eq)] at there
      exact g.fresh j t' (fun mem => away ((admitted j eq).mpr mem)) there
  past := by
    intro j t' mem away there
    by_cases eq : j = i
    · subst eq
      rw [setTask_self t here] at there
      exact Option.some.inj there ▸ past mem away
    · rw [List.getElem?_set_ne (Ne.symm eq)] at there
      exact g.past j t' ((admitted j eq).mp mem) (fun held => away (others j eq held)) there

theorem turn {may : Move σ → Prop} {x : List (Happening σ)} {p' : Pool σ α}
    (prompt : ∀ r ∈ procedures, r.Prompt) (o : p.Orderly) (g : Progress procedures h p)
    (turn : Turn answer may p x p') : Progress procedures (h ++ x) p' := by
  cases turn with
  | change ok =>
    rw [List.append_nil]
    exact ⟨g.fresh, g.past⟩
  | @ask i q next here plain mine =>
    have other : q ≠ .enterGate := by
      rintro rfl
      cases plain
    have mem := g.admitted_of_ask prompt here other
    refine g.set here (fun j _ => by simp) (fun away => absurd (by simpa using mem) away)
      (fun _ away => .inl ⟨_, rfl, ?_⟩) (fun _ _ held => held)
    exact ((o.outside i _ away here).of_ask other).2 _
  | @queue i next here held away =>
    rw [List.append_nil]
    have comes : p.tasks[i]? = some (.ready (.ask .enterGate fun _ => next ())) := here
    have new := g.not_admitted_of_comer away (.inl comes)
    refine g.set here (fun j _ => .rfl) (fun _ => .inr (.inl ?_)) (fun mem => absurd mem new)
      (fun _ _ held => held)
    -- Who comes to the gate has done nothing before.
    rcases g.fresh i _ new here with ⟨r, named, eq⟩ | ⟨rest, -, eq⟩ | eq
    · exact ⟨next (), Task.ready.inj eq ▸ named, rfl⟩
    · cases eq
    · cases eq
  | @enter i rest waiting free here =>
    obtain ⟨t₀, there⟩ : ∃ t₀, p.tasks[i]? = some t₀ := by
      rcases here with ⟨here, -⟩ | ⟨here, -⟩ <;> exact ⟨_, here⟩
    refine g.set there (fun j ne => by simp [ne]) (fun away => absurd (by simp) away)
      (fun _ away => absurd rfl away) (fun j _ held => ?_)
    rw [free] at held
    cases held
  | @leave i next here mine =>
    rw [List.append_nil]
    have mem := g.admitted_of_ask prompt here (by simp)
    refine g.set here (fun j _ => .rfl) (fun away => absurd mem away)
      (fun _ _ => .inl ⟨_, rfl, (o.inside_of_ready mine here).of_leave⟩) (fun j ne held => ?_)
    exact absurd (Option.some.inj (held.symm.trans mine)) ne
  | @abandon i rest ok here mine =>
    rw [List.append_nil]
    refine g.set here (fun j _ => .rfl) (fun _ => .inr (.inr rfl)) (fun _ _ => .inr rfl)
      (fun j ne held => ?_)
    exact absurd (Option.some.inj (held.symm.trans mine)) ne
  | @quit i t ok here away =>
    rw [List.append_nil]
    exact g.set here (fun j _ => .rfl) (fun _ => .inr (.inr rfl)) (fun _ _ => .inr rfl)
      (fun _ _ held => held)

end Progress

/-! ## Parting from the gate -/

/-- The task at a place holds the gate in this pool, and the next step of the run, its own, is the one
by which it leaves. -/
def LeavesFrom (answer : Surroundings σ) (p : Pool σ α) (schedule : List (Move σ)) (i : Nat)
    (before : Pool σ α) : Prop :=
  ∃ earlier later, schedule = earlier ++ .step i :: later ∧ before = p.run answer earlier ∧
    before.gate.holder = some i ∧ (before.step answer i).gate.holder ≠ some i

/-- Whoever held the gate and does not any more has parted from it in one of the moves between. -/
theorem exists_parting_of_held {p : Pool σ α} {schedule : List (Move σ)} {i : Nat}
    (held : p.gate.holder = some i) (away : (p.run answer schedule).gate.holder ≠ some i) :
    ∃ earlier m later, schedule = earlier ++ m :: later ∧
      (p.run answer earlier).gate.holder = some i ∧
      ((p.run answer earlier).move answer m).gate.holder ≠ some i := by
  induction schedule generalizing p with
  | nil => exact absurd held away
  | cons m rest ih =>
    by_cases still : (p.move answer m).gate.holder = some i
    · obtain ⟨before, parting, after, eq, mine, gone⟩ := ih still away
      exact ⟨m :: before, parting, after, by rw [eq]; rfl, mine, gone⟩
    · exact ⟨[], m, rest, rfl, held, still⟩

/-- Whoever was admitted and does not hold the gate in the end has parted from it. -/
theorem exists_parting {p : Pool σ α} {schedule : List (Move σ)} {i : Nat}
    (mem : Happening.admitted i ∈ p.history answer schedule)
    (away : (p.run answer schedule).gate.holder ≠ some i) :
    ∃ earlier m later, schedule = earlier ++ m :: later ∧
      (p.run answer earlier).gate.holder = some i ∧
      ((p.run answer earlier).move answer m).gate.holder ≠ some i := by
  obtain ⟨before, after, rfl, held⟩ := held_of_admitted mem
  rw [run_append] at away
  obtain ⟨earlier, m, later, rfl, mine, gone⟩ := exists_parting_of_held held away
  rw [← run_append] at mine gone
  exact ⟨before ++ earlier, m, later, by rw [List.append_assoc], mine, gone⟩

/-- Somebody who does not wait is left alone when the gate is passed on. -/
theorem wake_of_idle {tasks : List (Task α)} {i : Nat} {t : Task α} (here : tasks[i]? = some t)
    (idle : ∀ rest, t ≠ .waiting rest) (j : Nat) : (wake tasks j)[i]? = some t := by
  unfold wake
  split
  · rename_i rest there
    have ne : j ≠ i := by
      rintro rfl
      exact idle rest (Option.some.inj (here.symm.trans there))
    rw [List.getElem?_set_ne ne]
    exact here
  · exact here

theorem gate_leaveGate (p : Pool σ α) : p.leaveGate.gate = p.gate.leave := by
  simp only [leaveGate]
  split <;> rfl

theorem leaveGate_of_idle {p : Pool σ α} {i : Nat} {t : Task α} (here : p.tasks[i]? = some t)
    (idle : ∀ rest, t ≠ .waiting rest) :
    p.leaveGate.tasks[i]? = some t ∧ p.leaveGate.world = p.world := by
  simp only [leaveGate]
  cases p.gate.leave.holder with
  | none => exact ⟨here, rfl⟩
  | some j => exact ⟨wake_of_idle here idle j, rfl⟩

section Holder

variable {p : Pool σ α} {i j : Nat}

/-- The holder keeps the gate while another one is given up. -/
theorem holder_of_drop (mine : p.gate.holder = some i) (ne : j ≠ i) :
    (p.drop j).gate.holder = some i := by
  have away : p.gate.holds j = false := by simp [Gate.holds, mine, ne.symm]
  simp only [drop]
  split
  · simp only [away, Bool.false_eq_true, if_false]
    exact mine
  · exact mine
  · exact mine

/-- The holder keeps the gate while another one takes a step. -/
theorem Orderly.holder_of_step (o : p.Orderly) (mine : p.gate.holder = some i) (ne : j ≠ i) :
    (p.step answer j).gate.holder = some i := by
  have away : p.gate.holder ≠ some j := by simp [mine, ne.symm]
  cases there : p.tasks[j]? with
  | none => simpa only [step, there] using mine
  | some t =>
    cases t with
    | waiting rest => simpa only [step, there] using mine
    | dropped => simpa only [step, there] using mine
    | ready rest =>
      cases rest with
      | done a => simpa only [step, there] using mine
      | ask q next =>
        by_cases plain : q.isGate = false
        · rw [(step_ask answer there plain).1]
          exact mine
        · cases q with
          | enterGate => simp [step, there, mine, Gate.enter]
          | leaveGate =>
            -- Only who holds the gate comes to the point of leaving it.
            have free := ((o.outside j _ away there).of_ask (by simp)).1
            exact absurd free Bool.false_ne_true
          | _ => exact absurd rfl plain

/-- The holder who is given up is gone, and the gate is passed on. -/
theorem Orderly.dropped_of_drop (o : p.Orderly) (mine : p.gate.holder = some i) :
    p.happenings (.drop i) = p.nextIn ∧ (p.drop i).tasks[i]? = some .dropped := by
  obtain ⟨rest, here, -⟩ := o.inside i mine
  have holds : p.gate.holds i = true := by simp [Gate.holds, mine]
  have given_up : p.drop i = (p.setTask i .dropped).leaveGate := by
    simp only [drop, here, holds, if_true]
  refine ⟨by simp only [happenings, here, holds, if_true], ?_⟩
  rw [given_up]
  exact (leaveGate_of_idle (p := p.setTask i .dropped) (setTask_self _ here) (by simp)).1

/-- The holder parts from the gate by its own step only at the point of leaving. -/
theorem Orderly.left_of_step (o : p.Orderly) (mine : p.gate.holder = some i)
    (gone : (p.step answer i).gate.holder ≠ some i) :
    p.happenings (.step i) = p.nextIn ∧ ∃ next : Unit → Procedure α,
      p.tasks[i]? = some (.ready (.ask .leaveGate next)) ∧
      (p.step answer i).tasks[i]? = some (.ready (next ())) := by
  obtain ⟨rest, here, inside⟩ := o.inside i mine
  cases inside with
  | @leave next =>
    have left_ : p.step answer i = (p.setTask i (.ready (next ()))).leaveGate := by
      simp only [step, here]
    refine ⟨by simp only [happenings, here], next, here, ?_⟩
    rw [left_]
    exact (leaveGate_of_idle (p := p.setTask i (.ready (next ()))) (setTask_self _ here) (by simp)).1
  | ask plain _ =>
    refine absurd ?_ gone
    rw [(step_ask answer here plain).1]
    exact mine

/-- The holder parts from the gate when it is given up, or by its own step at the point of leaving. -/
theorem Orderly.parts_of_move (o : p.Orderly) {m : Move σ} (mine : p.gate.holder = some i)
    (gone : (p.move answer m).gate.holder ≠ some i) :
    p.happenings m = p.nextIn ∧
      (m = .drop i ∧ (p.move answer m).tasks[i]? = some .dropped ∨
        m = .step i ∧ ∃ next : Unit → Procedure α,
          p.tasks[i]? = some (.ready (.ask .leaveGate next)) ∧
          (p.move answer m).tasks[i]? = some (.ready (next ()))) := by
  cases m with
  | change f => exact absurd mine gone
  | drop j =>
    by_cases own : j = i
    · subst own
      obtain ⟨passed_on, dropped⟩ := o.dropped_of_drop mine
      exact ⟨passed_on, .inl ⟨rfl, dropped⟩⟩
    · exact absurd (holder_of_drop mine own) gone
  | step j =>
    by_cases own : j = i
    · subst own
      obtain ⟨passed_on, left_⟩ := o.left_of_step mine gone
      exact ⟨passed_on, .inr ⟨rfl, left_⟩⟩
    · exact absurd (o.holder_of_step mine own) gone

end Holder

/-! ## Given up -/

/-- Who was given up stays so and asks for nothing any more. -/
theorem Turn.of_dropped {may : Move σ → Prop} {p p' : Pool σ α} {x : List (Happening σ)} {i : Nat}
    (turn : Turn answer may p x p') (gone : p.tasks[i]? = some .dropped) :
    p'.tasks[i]? = some .dropped ∧ ∀ q s, Happening.asked i q s ∉ x := by
  -- Whoever takes a turn is ready or waits, so it is somebody else, or is given up once more.
  have other : ∀ {j : Nat} {t₀ : Task α}, p.tasks[j]? = some t₀ → t₀ ≠ .dropped → j ≠ i := by
    rintro j t₀ here ready rfl
    exact ready (Option.some.inj (here.symm.trans gone))
  cases turn with
  | change ok => exact ⟨gone, fun _ _ => List.not_mem_nil⟩
  | @ask j q next here =>
    have ne := other here (by simp)
    exact ⟨(List.getElem?_set_ne ne).trans gone, fun _ _ => by simp [ne.symm]⟩
  | @queue j next here =>
    exact ⟨(List.getElem?_set_ne (other here (by simp))).trans gone, fun _ _ => List.not_mem_nil⟩
  | @enter j rest waiting free here =>
    have ne : j ≠ i := by
      rcases here with ⟨here, -⟩ | ⟨here, -⟩ <;> exact other here (by simp)
    exact ⟨(List.getElem?_set_ne ne).trans gone, fun _ _ => by simp⟩
  | @leave j next here =>
    exact ⟨(List.getElem?_set_ne (other here (by simp))).trans gone, fun _ _ => List.not_mem_nil⟩
  | @abandon j rest ok here =>
    exact ⟨(List.getElem?_set_ne (other here (by simp))).trans gone, fun _ _ => List.not_mem_nil⟩
  | @quit j t ok here =>
    refine ⟨?_, fun _ _ => List.not_mem_nil⟩
    by_cases eq : j = i
    · subst eq
      exact setTask_self _ here
    · exact (List.getElem?_set_ne eq).trans gone

end Circulation.Pool
