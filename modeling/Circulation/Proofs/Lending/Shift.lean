/- # Circulation.Proofs.Lending.Shift -- calls side by side, seen from the stores

A shift forgets the procedures of a pool of calls. It keeps who holds the gate, what each call has
done so far, and the two stores. In a shift only the holder changes the stores, by its advances; it
leaves with a verdict that fits its deed, or is given up where it stands. Every run of calls on one
gate is a run of shifts (`reaches_run`), whatever the schedule, the faults, the clock and the calls
that are given up. A law of the stores is then proved by an induction over shifts.
-/
import Circulation.Proofs.Lending.Course
import Mathlib.Logic.Function.Basic
import Mathlib.Logic.Relation

namespace Circulation

open Time (Instant)

namespace Lending

/-! ## Deeds in a history -/

namespace Deed

/-- The deed of one call after something happened. -/
def heed (i : Nat) (deed : Deed) : Happening Desk → Deed
  | .asked j q d => if j = i then deed.after q d else deed
  | .admitted _ => deed

/-- What the call at a place has done by the end of a history. -/
def inHistory (h : List (Happening Desk)) (i : Nat) : Deed := h.foldl (heed i) (.nothing none)

theorem inHistory_admitted (h : List (Happening Desk)) (j : Nat) :
    inHistory (h ++ [.admitted j]) = inHistory h := by
  funext i
  rw [inHistory, List.foldl_append]
  rfl

theorem inHistory_asked (h : List (Happening Desk)) (i : Nat) (q : Request) (d : Desk) :
    inHistory (h ++ [.asked i q d]) =
      Function.update (inHistory h) i ((inHistory h i).after q d) := by
  funext j
  rw [inHistory, List.foldl_append]
  show (if i = j then (inHistory h j).after q d else inHistory h j) = _
  by_cases eq : i = j
  · subst eq
    rw [if_pos rfl, Function.update_self]
  · rw [if_neg eq, Function.update_of_ne (Ne.symm eq)]

/-- Outside the gate a request can only be a look at the clock, as far as deeds go. -/
theorem after_public (deed : Deed) {q : Request} (h : q.isPublic = true) (d : Desk) :
    deed.after q d = deed ∨
      ∃ r now, deed = .nothing r ∧ deed.after q d = .nothing (some now) := by
  cases deed with
  | nothing r =>
    cases q with
    | readClock => exact .inr ⟨r, _, rfl, rfl⟩
    | store c => exact absurd h Bool.false_ne_true
    | _ => exact .inl rfl
  | opened loan =>
    cases q with
    | store c => exact absurd h Bool.false_ne_true
    | _ => exact .inl rfl
  | settled loan =>
    cases q with
    | store c => exact absurd h Bool.false_ne_true
    | _ => exact .inl rfl
  | _ => exact .inl rfl

end Deed

/-! ## Shifts -/

/-- Who holds the gate, what each call has done, and the stores. -/
structure Shift where
  holder : Option Nat
  deeds : Nat → Deed
  stores : Stores

namespace Shift

/-- Nobody has begun. -/
def start (st : Stores) : Shift := ⟨none, fun _ => .nothing none, st⟩

/-- One step of a shift, under faults of this kind, with or without calls being given up. -/
inductive Step (may : Faults → Prop) (drops : Prop) (errands : List Errand) (s : Shift) :
    Shift → Prop
  | enter {i : Nat} (free : s.holder = none) (fresh : s.deeds i = .nothing none) :
      Step may drops errands s { s with holder := some i }
  /-- The holder goes on with its errand. -/
  | advance {i : Nat} {e : Errand} {deed : Deed} {st : Stores} (mine : s.holder = some i)
      (named : errands[i]? = some e) (by_ : Advance e (s.deeds i) s.stores deed st) :
      Step may drops errands s ⟨s.holder, Function.update s.deeds i deed, st⟩
  /-- Somebody else looks at the clock. -/
  | glance {i : Nat} {r : Option Instant} (now : Instant) (idle : s.deeds i = .nothing r) :
      Step may drops errands s
        { s with deeds := Function.update s.deeds i (.nothing (some now)) }
  | leave {i : Nat} {e : Errand} {v : Verdict} (mine : s.holder = some i)
      (named : errands[i]? = some e) (exit : Exit may e (s.deeds i) s.stores v) :
      Step may drops errands s { s with holder := none }
  | abandon {i : Nat} (ok : drops) (mine : s.holder = some i) :
      Step may drops errands s { s with holder := none }

/-- One shift comes from another by steps. -/
abbrev Reaches (may : Faults → Prop) (drops : Prop) (errands : List Errand) : Shift → Shift → Prop :=
  Relation.ReflTransGen (Step may drops errands)

/-- What every step keeps, shifts keep. -/
theorem Reaches.keep {may : Faults → Prop} {drops : Prop} {errands : List Errand}
    {P : Shift → Prop}
    (step : ∀ {s s' : Shift}, Step may drops errands s s' → P s → P s')
    {s s' : Shift} (reached : Reaches may drops errands s s') (begun : P s) : P s' := by
  induction reached with
  | refl => exact begun
  | tail _ last ih => exact step last ih

/-- The shift that a pool shows after a history. -/
def of {α : Type} (h : List (Happening Desk)) (p : Pool Desk α) : Shift :=
  ⟨p.gate.holder, Deed.inHistory h, p.world.stores⟩

end Shift

/-! ## Moves that leave the stores to the calls -/

/-- The surroundings keep to faults of this kind and leave the stores and the events alone; calls may
be given up or not. -/
def Permitted (may : Faults → Prop) (drops : Prop) : Pool.Move Desk → Prop
  | .step _ => True
  | .drop _ => drops
  | .change f => ∀ d, (f d).stores = d.stores ∧ (f d).events = d.events ∧
      (may d.faults → may (f d).faults)

/-- Using up the loss of a return keeps to faults of this kind. -/
def Lasting (may : Faults → Prop) : Prop := ∀ s, may s → may { s with loseNextReturn := false }

/-- Steps are always permitted. -/
theorem permitted_steps (may : Faults → Prop) (drops : Prop) (order : List Nat) :
    ∀ m ∈ order.map Pool.Move.step, Permitted may drops m := by
  intro m mem
  obtain ⟨i, -, rfl⟩ := List.mem_map.mp mem
  trivial

/-! ## The calls of a pool -/

/-- A pool of calls, all at their beginning. -/
def pool (emit : EventSink) (errands : List Errand) (d : Desk) :
    Pool Desk (Except Failure Served) :=
  Pool.start d (errands.map (·.procedure emit))

/-- What comes after the gate, for the call at a place and its verdict. -/
abbrev Sequel (α : Type) := Nat → Verdict → Procedure α

/-- Calls go on with the news of their verdict. -/
def newsOf (emit : EventSink) : Sequel (Except Failure Served) := fun _ v => v.epilogue emit

/-- The procedure is what is left of the section of the call at a place, with what comes after it. -/
def Behind {α : Type} (sequel : Sequel α) (may : Faults → Prop) (errands : List Errand) (i : Nat)
    (deed : Deed) (st : Stores) (rest : Procedure α) : Prop :=
  ∃ e p, errands[i]? = some e ∧
    rest = p.andThen (fun v => .ask .leaveGate fun _ => sequel i v) ∧ Course may e deed st p

namespace Behind

variable {α : Type} {sequel : Sequel α} {may : Faults → Prop} {errands : List Errand} {i : Nat}
  {deed : Deed} {st : Stores}

/-- A request behind the gate is an advance, and what comes after it is behind the gate still. -/
theorem of_ask {q : Request} {next : q.Answer → Procedure α}
    (h : Behind sequel may errands i deed st (.ask q next)) (plain : q.isGate = false) :
    ∃ e, errands[i]? = some e ∧ q.isInner = true ∧ ∀ d : Desk, d.stores = st → may d.faults →
      Advance e deed st (deed.after q d) (Desk.answer q d).2.stores ∧
      Behind sequel may errands i (deed.after q d) (Desk.answer q d).2.stores
        (next (Desk.answer q d).1) := by
  obtain ⟨e, p, named, eq, course⟩ := h
  -- A section that has come to its verdict asks to leave, and that is no plain request.
  cases course with
  | done exit =>
    injection eq with asked
    subst asked
    exact absurd plain.symm Bool.false_ne_true
  | ask inner advance rest =>
    injection eq with asked same
    subst asked
    have next_eq := eq_of_heq same
    refine ⟨e, named, inner, fun d here ok => ⟨advance d here ok, e, _, named, ?_, rest d here ok⟩⟩
    rw [next_eq]

/-- The gate is left with a verdict that fits the deed. -/
theorem of_leave {next : Unit → Procedure α}
    (h : Behind sequel may errands i deed st (.ask .leaveGate next)) :
    ∃ e v, errands[i]? = some e ∧ Exit may e deed st v ∧ next () = sequel i v := by
  obtain ⟨e, p, named, eq, course⟩ := h
  cases course with
  | @done _ _ v exit =>
    injection eq with _ same
    exact ⟨e, v, named, exit, congrFun same ()⟩
  | ask inner =>
    injection eq with asked
    subst asked
    exact absurd inner Bool.false_ne_true

end Behind

/-- The procedures that begin at the gate are the calls at their places, whatever the stores are when
they pass it. -/
def Heralded {α : Type} (sequel : Sequel α) (may : Faults → Prop) (errands : List Errand)
    (procedures : List (Procedure α)) : Prop :=
  ∀ (i : Nat) (rest : Procedure α), procedures[i]? = some (.ask .enterGate fun _ => rest) →
    ∀ st, Behind sequel may errands i (.nothing none) st rest

/-- Calls at their beginning are the calls at their places. -/
theorem heralded_errands (emit : EventSink) (may : Faults → Prop) (errands : List Errand) :
    Heralded (newsOf emit) may errands (errands.map (·.procedure emit)) := by
  intro i rest here st
  obtain ⟨e, named, eq⟩ := Option.map_eq_some_iff.mp ((List.getElem?_map ..).symm.trans here)
  rw [Errand.procedure_eq] at eq
  cases behind : e.section? with
  | error f =>
    rw [behind] at eq
    cases eq
  | ok section_ =>
    rw [behind] at eq
    injection eq with _ same
    exact ⟨e, section_, named, (congrFun same ()).symm, section_course may behind none st⟩

section Tracked

variable {α : Type}

/-- The holder is on its course, and whoever comes to the gate has done nothing and will be on its
course, whatever the stores are then. -/
structure Tracked (sequel : Sequel α) (may : Faults → Prop) (errands : List Errand)
    (h : List (Happening Desk)) (p : Pool Desk α) : Prop where
  faults : may p.world.faults
  holder : ∀ (i : Nat) (rest : Procedure α),
    p.gate.holder = some i → p.tasks[i]? = some (.ready rest) →
      Behind sequel may errands i (Deed.inHistory h i) p.world.stores rest
  comer : ∀ (i : Nat) (rest : Procedure α), p.gate.holder ≠ some i →
    p.tasks[i]? = some (.ready (.ask .enterGate fun _ => rest)) ∨
        p.tasks[i]? = some (.waiting rest) →
      Deed.inHistory h i = .nothing none ∧
        ∀ st, Behind sequel may errands i (.nothing none) st rest

/-- Past the gate nobody comes to it again. -/
theorem past_gate {rest rest' : Procedure α} (free : rest.Public)
    (comes : Task.ready rest = .ready (.ask .enterGate fun _ => rest') ∨
      Task.ready rest = .waiting rest') : False := by
  rcases comes with eq | eq
  · cases eq
    exact absurd free.of_ask.1 Bool.false_ne_true
  · cases eq

namespace Tracked

variable {sequel : Sequel α} {may : Faults → Prop} {errands : List Errand}
  {h h' : List (Happening Desk)} {p : Pool Desk α}

theorem start {d : Desk} {procedures : List (Procedure α)} (ok : may d.faults)
    (heralded : Heralded sequel may errands procedures) :
    Tracked sequel may errands [] (Pool.start d procedures) where
  faults := ok
  holder := by
    intro i rest held
    cases held
  comer := by
    intro i rest _ here
    -- At the start nobody waits, so the task is a procedure at its beginning.
    rcases here with here | here
    · obtain ⟨r, named, eq⟩ := Pool.ready_of_start here
      cases eq
      exact ⟨rfl, heralded i rest named⟩
    · obtain ⟨r, -, eq⟩ := Pool.ready_of_start here
      cases eq

/-- One task, the gate and the desk change together. The conditions are about that task, and say that
nobody else comes to the gate and that another holder finds the stores as they were. -/
theorem set (t : Tracked sequel may errands h p) {i : Nat}
    {task task₀ : Task α} {world : Desk} {gate : Gate Nat}
    (here : p.tasks[i]? = some task₀) (faults : may world.faults)
    (deeds : ∀ j, j ≠ i → Deed.inHistory h' j = Deed.inHistory h j)
    (own : ∀ rest, gate.holder = some i → task = .ready rest →
      Behind sequel may errands i (Deed.inHistory h' i) world.stores rest)
    (others : ∀ j, j ≠ i →
      (gate.holder = some j → p.gate.holder = some j ∧ world.stores = p.world.stores) ∧
      (p.gate.holder = some j → gate.holder = some j))
    (coming : ∀ rest, gate.holder ≠ some i →
      task = .ready (.ask .enterGate fun _ => rest) ∨ task = .waiting rest →
        Deed.inHistory h' i = .nothing none ∧
          ∀ st, Behind sequel may errands i (.nothing none) st rest) :
    Tracked sequel may errands h' ⟨world, gate, p.tasks.set i task⟩ where
  faults := faults
  holder := by
    intro j rest held there
    by_cases eq : j = i
    · subst eq
      rw [Pool.setTask_self task here] at there
      exact own rest held (Option.some.inj there)
    · rw [List.getElem?_set_ne (Ne.symm eq)] at there
      obtain ⟨held, same⟩ := (others j eq).1 held
      rw [deeds j eq]
      show Behind sequel may errands j _ world.stores rest
      rw [same]
      exact t.holder j rest held there
  comer := by
    intro j rest away there
    by_cases eq : j = i
    · subst eq
      simp only [Pool.setTask_self task here, Option.some.injEq] at there
      exact coming rest away there
    · simp only [List.getElem?_set_ne (Ne.symm eq)] at there
      rw [deeds j eq]
      exact t.comer j rest (fun held => away ((others j eq).2 held)) there

/-- The holder asks, and that is an advance. -/
theorem ask_held (t : Tracked sequel may errands h p) (drops : Prop) {i : Nat} {q : Request}
    {next : q.Answer → Procedure α}
    (here : p.tasks[i]? = some (.ready (.ask q next))) (plain : q.isGate = false)
    (held : p.gate.holder = some i) (faults : may (Desk.answer q p.world).2.faults) :
    let p' := { p.setTask i (.ready (next (Desk.answer q p.world).1)) with
      world := (Desk.answer q p.world).2 }
    Tracked sequel may errands (h ++ [.asked i q p.world]) p' ∧
      Shift.Reaches may drops errands (Shift.of h p)
        (Shift.of (h ++ [.asked i q p.world]) p') := by
  intro p'
  obtain ⟨e, named, -, course⟩ := (t.holder i _ held here).of_ask plain
  obtain ⟨advance, behind⟩ := course p.world rfl t.faults
  constructor
  · refine t.set here faults (fun j ne => ?_) (fun rest _ eq => ?_)
      (fun j ne => ⟨fun there => ?_, id⟩) (fun rest away => absurd held away)
    · rw [Deed.inHistory_asked, Function.update_of_ne ne]
    · cases eq
      rw [Deed.inHistory_asked, Function.update_self]
      exact behind
    · exact absurd (Option.some.inj (there.symm.trans held)) ne
  · have after : Shift.of (h ++ [.asked i q p.world]) p' =
        ⟨(Shift.of h p).holder,
          Function.update (Shift.of h p).deeds i ((Deed.inHistory h i).after q p.world),
          p'.world.stores⟩ := by
      simp only [Shift.of, Deed.inHistory_asked]
      rfl
    rw [after]
    exact .single (.advance held named advance)

/-- Somebody who does not hold the gate asks what needs none, and that is at most a glance at the
clock. -/
theorem ask_public (t : Tracked sequel may errands h p) (drops : Prop) {i : Nat} {q : Request}
    {next : q.Answer → Procedure α}
    (here : p.tasks[i]? = some (.ready (.ask q next))) (away : p.gate.holder ≠ some i)
    (free : q.isPublic = true) (rest_free : ∀ a, (next a).Public)
    (faults : may (Desk.answer q p.world).2.faults) :
    let p' := { p.setTask i (.ready (next (Desk.answer q p.world).1)) with
      world := (Desk.answer q p.world).2 }
    Tracked sequel may errands (h ++ [.asked i q p.world]) p' ∧
      Shift.Reaches may drops errands (Shift.of h p)
        (Shift.of (h ++ [.asked i q p.world]) p') := by
  intro p'
  have stores : p'.world.stores = p.world.stores := Desk.stores_answer free p.world
  constructor
  · refine t.set here faults (fun j ne => ?_) (fun rest there => absurd there away)
      (fun j ne => ⟨fun there => ⟨there, stores⟩, id⟩) (fun rest _ eq => ?_)
    · rw [Deed.inHistory_asked, Function.update_of_ne ne]
    · exact (past_gate (rest_free _) eq).elim
  · -- The shift shows a reading of the clock only as long as the call has done nothing else.
    rcases Deed.after_public (Deed.inHistory h i) free p.world with same | ⟨r, now, idle, read⟩
    · have still : Shift.of (h ++ [.asked i q p.world]) p' = Shift.of h p := by
        simp only [Shift.of, Deed.inHistory_asked, stores, same, Function.update_eq_self]
        rfl
      rw [still]
    · have after : Shift.of (h ++ [.asked i q p.world]) p' =
          { Shift.of h p with
            deeds := Function.update (Shift.of h p).deeds i (.nothing (some now)) } := by
        simp only [Shift.of, Deed.inHistory_asked, stores, read]
        rfl
      rw [after]
      exact .single (.glance now idle)

/-- The gate goes to somebody who has done nothing yet. -/
theorem enter (t : Tracked sequel may errands h p) (drops : Prop) {i : Nat}
    {rest : Procedure α} {waiting : List Nat} (free : p.gate.holder = none)
    (here : p.tasks[i]? = some (.ready (.ask .enterGate fun _ => rest)) ∨
      p.tasks[i]? = some (.waiting rest)) :
    let p' := { p.setTask i (.ready rest) with gate := ⟨some i, waiting⟩ }
    Tracked sequel may errands (h ++ [.admitted i]) p' ∧
      Shift.Reaches may drops errands (Shift.of h p) (Shift.of (h ++ [.admitted i]) p') := by
  intro p'
  have away : p.gate.holder ≠ some i := by
    rw [free]
    exact (Option.some_ne_none i).symm
  obtain ⟨fresh, behind⟩ := t.comer i rest away here
  obtain ⟨task₀, there⟩ : ∃ task₀, p.tasks[i]? = some task₀ := by
    rcases here with here | here <;> exact ⟨_, here⟩
  constructor
  · refine t.set there t.faults (fun j _ => by rw [Deed.inHistory_admitted])
      (fun rest' _ eq => ?_) (fun j ne => ⟨fun held => ?_, fun held => ?_⟩)
      (fun rest' off => absurd rfl off)
    · cases eq
      rw [Deed.inHistory_admitted, fresh]
      exact behind _
    · exact absurd (Option.some.inj held).symm ne
    · rw [free] at held
      cases held
  · have after : Shift.of (h ++ [.admitted i]) p' = { Shift.of h p with holder := some i } := by
      simp only [Shift.of, Deed.inHistory_admitted]
      rfl
    rw [after]
    exact .single (.enter free fresh)

/-- The holder is gone from the gate, and its task does not come to it again. -/
theorem vacate (t : Tracked sequel may errands h p) {i : Nat}
    {task task₀ : Task α} {waiting : List Nat}
    (mine : p.gate.holder = some i) (here : p.tasks[i]? = some task₀)
    (gone : ∀ rest, task = .ready (.ask .enterGate fun _ => rest) ∨ task = .waiting rest → False) :
    Tracked sequel may errands h ⟨p.world, ⟨none, waiting⟩, p.tasks.set i task⟩ := by
  refine t.set here t.faults (fun _ _ => rfl) (fun rest there => by cases there)
    (fun j ne => ⟨fun there => (by cases there), fun held => ?_⟩)
    (fun rest _ eq => (gone rest eq).elim)
  exact absurd (Option.some.inj (held.symm.trans mine)) ne

/-- A turn of the pool is a step of the shift, or nothing that a shift shows. -/
theorem turn {drops : Prop} {x : List (Happening Desk)} {p' : Pool Desk α}
    (lasting : Lasting may) (o : p.Orderly) (t : Tracked sequel may errands h p)
    (turn : Pool.Turn Desk.answer (Permitted may drops) p x p') :
    Tracked sequel may errands (h ++ x) p' ∧
      Shift.Reaches may drops errands (Shift.of h p) (Shift.of (h ++ x) p') := by
  cases turn with
  | @change f ok =>
    obtain ⟨stores, -, faults⟩ := ok p.world
    have same : Shift.of (h ++ []) { p with world := f p.world } = Shift.of h p := by
      rw [List.append_nil]
      simp only [Shift.of, stores]
    rw [same, List.append_nil]
    refine ⟨⟨faults t.faults, fun i rest held here => ?_, t.comer⟩, .refl⟩
    simp only [stores]
    exact t.holder i rest held here
  | @ask i q next here plain mine =>
    -- The answer can use up the loss of a return, which the kind of faults allows for.
    have faults : may (Desk.answer q p.world).2.faults := by
      rcases Desk.faults_answer q p.world with same | used
      · rw [same]
        exact t.faults
      · rw [used]
        exact lasting _ t.faults
    by_cases held : p.gate.holder = some i
    · exact t.ask_held drops here plain held faults
    · obtain ⟨free, rest_free⟩ := (o.outside i _ held here).of_ask (by
        rintro rfl
        exact absurd plain.symm Bool.false_ne_true)
      exact t.ask_public drops here held free rest_free faults
  | @queue i next here held away =>
    rw [List.append_nil]
    refine ⟨?_, .refl⟩
    refine t.set here t.faults (fun _ _ => rfl) (fun rest there => absurd there away)
      (fun j ne => ⟨fun there => ⟨there, rfl⟩, id⟩) (fun rest _ eq => ?_)
    rcases eq with eq | eq
    · cases eq
    · cases eq
      exact t.comer i _ away (.inl here)
  | @enter i rest waiting free here => exact t.enter drops free (here.imp And.left And.left)
  | @leave i next here mine =>
    obtain ⟨e, v, named, exit, -⟩ := (t.holder i _ mine here).of_leave
    have free := (o.inside_of_ready mine here).of_leave
    rw [List.append_nil]
    exact ⟨t.vacate mine here fun rest => past_gate free, .single (.leave mine named exit)⟩
  | @abandon i rest ok here mine =>
    rw [List.append_nil]
    exact ⟨t.vacate mine here fun rest eq => (by simp at eq), .single (.abandon ok mine)⟩
  | @quit i task ok here away =>
    rw [List.append_nil]
    refine ⟨?_, .refl⟩
    refine t.set here t.faults (fun _ _ => rfl) (fun rest there => absurd there away)
      (fun j ne => ⟨fun there => ⟨there, rfl⟩, id⟩) (fun rest _ eq => ?_)
    simp at eq

/-- From an orderly pool on its course every run is a run of shifts, and stays on course. -/
theorem run {drops : Prop} (t : Tracked sequel may errands h p) (lasting : Lasting may)
    (o : p.Orderly) {schedule : List (Pool.Move Desk)}
    (permitted : ∀ m ∈ schedule, Permitted may drops m) :
    Tracked sequel may errands (h ++ p.history Desk.answer schedule) (p.run Desk.answer schedule) ∧
      Shift.Reaches may drops errands (Shift.of h p)
        (Shift.of (h ++ p.history Desk.answer schedule) (p.run Desk.answer schedule)) := by
  let Invariant (h' : List (Happening Desk)) (p' : Pool Desk α) : Prop :=
    Tracked sequel may errands h' p' ∧
      Shift.Reaches may drops errands (Shift.of h p) (Shift.of h' p')
  have kept_by_turn : ∀ {h' x : List (Happening Desk)} {p' p'' : Pool Desk α},
      p'.Orderly → Invariant h' p' → Pool.Turn Desk.answer (Permitted may drops) p' x p'' →
        Invariant (h' ++ x) p'' := by
    intro h' x p' p'' o' ⟨tracked, reached⟩ turn
    obtain ⟨tracked', steps⟩ := tracked.turn lasting o' turn
    exact ⟨tracked', reached.trans steps⟩
  have begun : Invariant h p := ⟨t, .refl⟩
  exact (Pool.run_keep kept_by_turn permitted o begun).2

end Tracked

end Tracked

/-! ## Runs as shifts -/

/-- A pool of calls keeps order at the gate. -/
theorem pool_orderly {emit : EventSink} (sink : ∀ ev, (emit ev).Public) (errands : List Errand)
    (d : Desk) : (pool emit errands d).Orderly := by
  refine Pool.Orderly.start d fun r mem => ?_
  obtain ⟨e, -, rfl⟩ := List.mem_map.mp mem
  exact e.gated sink

/-- Every run of calls on one gate is a run of shifts. -/
theorem reaches_run {emit : EventSink} (sink : ∀ ev, (emit ev).Public) {may : Faults → Prop}
    (lasting : Lasting may) {drops : Prop} (errands : List Errand) {d : Desk} (ok : may d.faults)
    {schedule : List (Pool.Move Desk)} (permitted : ∀ m ∈ schedule, Permitted may drops m) :
    Shift.Reaches may drops errands (Shift.start d.stores)
      (Shift.of ((pool emit errands d).history Desk.answer schedule)
        ((pool emit errands d).run Desk.answer schedule)) :=
  ((Tracked.start ok (heralded_errands emit may errands)).run lasting
    (pool_orderly sink errands d) permitted).2

/-- The sink that keeps a record of the events needs no gate. -/
theorem recordingSink_public (ev : Event) : (recordingSink ev).Public := .ask rfl fun _ => .done ()

/-! ## A desk for examples -/

/-- One book, in one copy. -/
def oneCopy : Desk := ⟨Register.empty.put ⟨⟨1⟩, "Emma", 1, 1⟩, .empty, .none, ⟨0, 0⟩, []⟩

/-- To borrow the copy. -/
def borrowCopy : Errand := .borrow ⟨.borrow, "", none, ⟨some ⟨7⟩, some ⟨1⟩, none, none⟩⟩

/-- To return the first loan. -/
def returnCopy : Errand := .giveBack ⟨.giveBack, "", none, ⟨none, none, none, some ⟨1⟩⟩⟩

/-- The stock of books cannot be written from now on. -/
def failUpdates : Pool.Move Desk :=
  .change fun d => { d with faults := { d.faults with failUpdates := true } }

/-- It can be written again. -/
def mendUpdates : Pool.Move Desk :=
  .change fun d => { d with faults := { d.faults with failUpdates := false } }

end Lending

end Circulation
