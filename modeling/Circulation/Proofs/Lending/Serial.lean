/- # Circulation.Proofs.Lending.Serial -- calls side by side come to the same as one after the other

While the clock stands still, a pool of calls ends like the serial run of the same calls in the order
in which they passed the gate. The serial run is always ahead of the pool by what the holder has left
to do and by the events that calls past the gate have not recorded yet (`Foreseen`). A request of the
holder moves it towards the serial run, the request of anybody else changes nothing but the record of
events, and only an admission takes the serial run further.
-/
import Circulation.Proofs.Lending.Shift
import Circulation.Proofs.Pool.Serial

namespace Circulation

open Pool (admissions serially)

/-- Only one of the lists to be joined has something in front. -/
theorem flatMap_perm_of_one {ι α : Type} [DecidableEq ι] {l : List ι} (once : l.Nodup) {i : ι}
    (mem : i ∈ l) {f g : ι → List α} {front : List α} (own : f i = front ++ g i)
    (others : ∀ j ∈ l, j ≠ i → f j = g j) : (l.flatMap f).Perm (front ++ l.flatMap g) := by
  have first : l.Perm (i :: l.erase i) := List.perm_cons_erase mem
  have rest : (l.erase i).flatMap f = (l.erase i).flatMap g := by
    refine List.flatMap_congr fun j later => ?_
    obtain ⟨ne, there⟩ := (List.Nodup.mem_erase_iff once).mp later
    exact others j there ne
  have front_off : (i :: l.erase i).flatMap f = front ++ (i :: l.erase i).flatMap g := by
    rw [List.flatMap_cons, List.flatMap_cons, rest, own, List.append_assoc]
  refine (first.flatMap_right f).trans ?_
  rw [front_off]
  exact (first.symm.flatMap_right g).append_left front

namespace Desk

variable {α : Type} {procedures : List (Procedure α)} {d : Desk} {h h' : List (Happening Desk)}
  {p : Pool Desk α}

/-- The events that a task will record if it is left alone from now on. -/
def pending (p : Pool Desk α) (i : Nat) : List Event :=
  match p.tasks[i]? with
  | some (.ready rest) => (rest.run Desk.answer p.world.silent).2.events
  | _ => []

theorem pending_of_ready {i : Nat} {rest : Procedure α} (here : p.tasks[i]? = some (.ready rest)) :
    pending p i = (rest.run Desk.answer p.world.silent).2.events := by
  rw [pending, here]

/-- The serial run of those who were admitted, from the desk at the start, is where the pool comes to
when the holder goes on alone; its events are those recorded and those pending. -/
structure Foreseen (procedures : List (Procedure α)) (d : Desk) (h : List (Happening Desk))
    (p : Pool Desk α) : Prop where
  clock : p.world.clock = d.clock
  mustered : Pool.Mustered procedures h p
  result : ∀ (i : Nat) (rest : Procedure α), i ∈ admissions h → p.tasks[i]? = some (.ready rest) →
    (serially Desk.answer procedures (admissions h) d).1 i =
      some (rest.run Desk.answer p.world.silent).1
  free : p.gate.holder = none →
    (serially Desk.answer procedures (admissions h) d).2.silent = p.world.silent
  held : ∀ (i : Nat) (rest : Procedure α), p.gate.holder = some i →
    p.tasks[i]? = some (.ready rest) →
      (serially Desk.answer procedures (admissions h) d).2.silent =
        (rest.run Desk.answer p.world.silent).2.silent
  events : (p.world.events ++ (admissions h).flatMap (pending p)).Perm
    (serially Desk.answer procedures (admissions h) d).2.events

namespace Foreseen

theorem start (procedures : List (Procedure α)) (d : Desk) :
    Foreseen procedures d [] (Pool.start d procedures) where
  clock := rfl
  mustered := .start d procedures
  result := by
    intro i rest mem
    exact absurd mem List.not_mem_nil
  free := fun _ => rfl
  held := by
    intro i rest held
    cases held
  events := by
    show (d.events ++ []).Perm d.events
    rw [List.append_nil]

/-- What somebody else comes to does not depend on what the holder does to the desk. -/
theorem run_elsewhere (f : Foreseen procedures d h p) (still : d.clock.tick = 0) {i j : Nat}
    {world : Desk} (clock : world.clock = p.world.clock)
    (others : p.gate.holder = some i ∨ world.silent = p.world.silent) (ne : j ≠ i)
    (mem : j ∈ admissions h) {task : Procedure α} (ready : p.tasks[j]? = some (.ready task)) :
    (task.run Desk.answer world.silent).1 = (task.run Desk.answer p.world.silent).1 ∧
      (task.run Desk.answer world.silent).2.events =
        (task.run Desk.answer p.world.silent).2.events := by
  rcases others with held | eq
  · have away : p.gate.holder ≠ some j := by
      rw [held]
      exact fun eq => ne (Option.some.inj eq).symm
    have free := f.mustered.past j task mem away ready
    obtain ⟨a, events, run⟩ := run_public free d.clock still
    rw [run world.silent (clock.trans f.clock), run p.world.silent f.clock]
    exact ⟨rfl, rfl⟩
  · rw [eq]
    exact ⟨rfl, rfl⟩

/-- Who was admitted goes on. What it came to before, it comes to still, less the events that it has
recorded now. Others find the desk as it was, unless this one holds the gate. -/
theorem proceed (f : Foreseen procedures d h p) (still : d.clock.tick = 0)
    (same : admissions h' = admissions h) {i : Nat} {rest rest' : Procedure α} {world : Desk}
    {gate : Gate Nat} {news : List Event} (mem : i ∈ admissions h)
    (here : p.tasks[i]? = some (.ready rest)) (clock : world.clock = p.world.clock)
    (recorded : world.events = p.world.events ++ news)
    (onward : rest.run Desk.answer p.world.silent =
      ((rest'.run Desk.answer world.silent).1, (rest'.run Desk.answer world.silent).2.after news))
    (others : p.gate.holder = some i ∨ world.silent = p.world.silent)
    (holder : gate.holder = p.gate.holder ∨ (p.gate.holder = some i ∧ gate.holder = none))
    (past : gate.holder ≠ some i → rest'.Public) :
    Foreseen procedures d h' ⟨world, gate, p.tasks.set i (.ready rest')⟩ := by
  have mine : (p.tasks.set i (.ready rest'))[i]? = some (.ready rest') := Pool.setTask_self _ here
  have else_where : ∀ {j : Nat}, j ≠ i → (p.tasks.set i (.ready rest'))[j]? = p.tasks[j]? :=
    fun ne => List.getElem?_set_ne ne.symm
  have holder_elsewhere : ∀ j, j ≠ i → (gate.holder = some j ↔ p.gate.holder = some j) := by
    intro j ne
    rcases holder with eq | ⟨held, left_⟩
    · rw [eq]
    · rw [held, left_]
      simp [ne.symm]
  constructor
  case clock => exact clock.trans f.clock
  case mustered =>
    exact f.mustered.proceed same mem here (fun j ne => (holder_elsewhere j ne).mpr) past
  case result =>
    intro j task there ready
    rw [same] at there ⊢
    by_cases eq : j = i
    · subst eq
      rw [mine] at ready
      cases ready
      rw [f.result j rest there here, onward]
    · rw [else_where eq] at ready
      rw [f.result j task there ready, (f.run_elsewhere still clock others eq there ready).1]
  case free =>
    intro left_
    rw [same]
    rcases holder with eq | ⟨held, -⟩
    · -- Nobody held the gate before either.
      have free : p.gate.holder = none := eq.symm.trans left_
      rcases others with held | quiet
      · rw [free] at held
        cases held
      · rw [quiet]
        exact f.free free
    · -- The holder has left, so what it has still to do is public.
      have off : gate.holder ≠ some i := by
        rw [left_]
        exact (Option.some_ne_none i).symm
      obtain ⟨a, events, run⟩ := run_public (past off) d.clock still
      rw [f.held i rest held here, onward, run world.silent (clock.trans f.clock)]
      rfl
  case held =>
    intro j task held ready
    rw [same]
    by_cases eq : j = i
    · -- Nobody comes to hold the gate by going on, so it was held before.
      subst eq
      rw [mine] at ready
      cases ready
      have before : p.gate.holder = some j := by
        rcases holder with eq | ⟨mine, -⟩
        · exact eq.symm.trans held
        · exact mine
      rw [f.held j rest before here, onward]
      rfl
    · have before := (holder_elsewhere j eq).mp held
      rw [else_where eq] at ready
      rcases others with mine | quiet
      · exact absurd (Option.some.inj (before.symm.trans mine)) eq
      · rw [quiet]
        exact f.held j task before ready
  case events =>
    rw [same]
    have own : pending p i = news ++ pending ⟨world, gate, p.tasks.set i (.ready rest')⟩ i := by
      rw [pending_of_ready here, pending_of_ready mine, onward]
      rfl
    have joined := flatMap_perm_of_one f.mustered.once mem own fun j there ne => by
      obtain ⟨task, ready⟩ := f.mustered.ready j there
      have ready' : (p.tasks.set i (.ready rest'))[j]? = some (.ready task) :=
        (else_where ne).trans ready
      rw [pending_of_ready ready, pending_of_ready ready']
      exact (f.run_elsewhere still clock others ne there ready).2.symm
    -- What was pending here has moved into the record, past what is pending elsewhere.
    show (world.events ++ _).Perm _
    rw [recorded, List.append_assoc]
    exact (joined.symm.append_left _).trans f.events

/-- Who was not admitted has nothing pending. -/
theorem pending_set {p : Pool Desk α} {entered : List Nat} {i : Nat} (outside : i ∉ entered)
    (gate : Gate Nat) (t : Task α) :
    entered.flatMap (pending ⟨p.world, gate, p.tasks.set i t⟩) = entered.flatMap (pending p) := by
  refine List.flatMap_congr fun j mem => ?_
  simp only [pending, List.getElem?_set_ne (ne_of_mem_of_not_mem mem outside).symm]

/-- Who finds the gate held waits, and nothing that was foreseen changes. -/
theorem queue (f : Foreseen procedures d h p) {i : Nat} {rest : Procedure α} {gate : Gate Nat}
    (away : p.gate.holder ≠ some i)
    (here : p.tasks[i]? = some (.ready (.ask .enterGate fun _ => rest)))
    (holder : gate.holder = p.gate.holder) :
    Foreseen procedures d h ⟨p.world, gate, p.tasks.set i (.waiting rest)⟩ := by
  have outside : i ∉ admissions h := f.mustered.not_mem_of_comer away (.inl here)
  constructor
  case clock => exact f.clock
  case mustered => exact f.mustered.queue outside here holder
  case result =>
    intro j task mem ready
    rw [List.getElem?_set_ne (ne_of_mem_of_not_mem mem outside).symm] at ready
    exact f.result j task mem ready
  case free =>
    intro free
    rw [holder] at free
    exact f.free free
  case held =>
    intro j task held ready
    rw [holder] at held
    have ne : i ≠ j := by
      rintro rfl
      exact away held
    rw [List.getElem?_set_ne ne] at ready
    exact f.held j task held ready
  case events =>
    show (p.world.events ++ _).Perm _
    rw [pending_set outside]
    exact f.events

/-- The gate goes to somebody, and the serial run goes through their whole procedure. -/
theorem enter (f : Foreseen procedures d h p) {i : Nat} {rest : Procedure α} {waiting : List Nat}
    (free : p.gate.holder = none)
    (here : p.tasks[i]? = some (.ready (.ask .enterGate fun _ => rest)) ∨
      p.tasks[i]? = some (.waiting rest)) :
    Foreseen procedures d (h ++ [.admitted i])
      ⟨p.world, ⟨some i, waiting⟩, p.tasks.set i (.ready rest)⟩ := by
  have away : p.gate.holder ≠ some i := by
    rw [free]
    exact (Option.some_ne_none i).symm
  have outside : i ∉ admissions h := f.mustered.not_mem_of_comer away here
  have named := f.mustered.begins_of_comer outside here
  obtain ⟨task, there⟩ : ∃ task, p.tasks[i]? = some task := by
    rcases here with here | here <;> exact ⟨_, here⟩
  have mine : (p.tasks.set i (.ready rest))[i]? = some (.ready rest) := Pool.setTask_self _ there
  -- The serial run takes up the procedure where the pool stands now.
  let before := serially Desk.answer procedures (admissions h) d
  have after : serially Desk.answer procedures (admissions (h ++ [.admitted i])) d =
      (Function.update before.1 i (some (rest.run Desk.answer p.world.silent).1),
        (rest.run Desk.answer p.world.silent).2.after before.2.events) := by
    have run : rest.run Desk.answer before.2 = _ := run_eq_silent rest before.2
    rw [f.free free] at run
    rw [Pool.admissions_admitted, Pool.serially_snoc named]
    show (Function.update before.1 i (some (rest.run Desk.answer before.2).1),
      (rest.run Desk.answer before.2).2) = _
    rw [run]
  constructor
  case clock => exact f.clock
  case mustered => exact f.mustered.enter free outside there
  case result =>
    intro j task mem ready
    rw [Pool.admissions_admitted, List.mem_append, List.mem_singleton] at mem
    rw [after]
    show Function.update before.1 i _ j = _
    rcases mem with mem | rfl
    · have ne : j ≠ i := ne_of_mem_of_not_mem mem outside
      rw [List.getElem?_set_ne ne.symm] at ready
      rw [Function.update_of_ne ne]
      exact f.result j task mem ready
    · rw [mine] at ready
      cases ready
      rw [Function.update_self]
  case free =>
    intro off
    cases off
  case held =>
    intro j task held ready
    cases held
    rw [mine] at ready
    cases ready
    rw [after]
    rfl
  case events =>
    rw [after, Pool.admissions_admitted, List.flatMap_append, List.flatMap_singleton,
      pending_of_ready mine, pending_set outside, ← List.append_assoc]
    exact f.events.append_right _

/-- What every turn without changes and dropped calls keeps. -/
theorem turn (f : Foreseen procedures d h p) (prompt : ∀ r ∈ procedures, r.Prompt)
    (still : d.clock.tick = 0) (o : p.Orderly) {x : List (Happening Desk)} {p' : Pool Desk α}
    (turn : Pool.Turn Desk.answer (fun m => ∃ i, m = .step i) p x p') :
    Foreseen procedures d (h ++ x) p' := by
  have clock_still : p.world.clock.tick = 0 := by
    rw [f.clock]
    exact still
  cases turn with
  | change ok =>
    obtain ⟨i, eq⟩ := ok
    cases eq
  | abandon ok =>
    obtain ⟨i, eq⟩ := ok
    cases eq
  | quit ok =>
    obtain ⟨i, eq⟩ := ok
    cases eq
  | @ask i q next here plain mine =>
    have other : q ≠ .enterGate := by
      rintro rfl
      cases plain
    have mem := f.mustered.mem_of_ask prompt here other
    let found := Desk.answer q p.world.silent
    have split : Desk.answer q p.world = (found.1, found.2.after p.world.events) :=
      answer_eq_silent q p.world
    rw [split]
    refine f.proceed still (Pool.admissions_asked h i q p.world) mem here ?_ rfl
      (run_eq_silent (next found.1) found.2) ?_ (.inl rfl) fun away => ?_
    · exact clock_answer q clock_still
    · -- Without the gate only the record of events can change.
      by_cases held : p.gate.holder = some i
      · exact .inl held
      · right
        have free := ((o.outside i _ held here).of_ask other).1
        obtain ⟨a, events, asked⟩ := answer_public free d.clock still
        show (Desk.answer q p.world.silent).2.silent = p.world.silent
        rw [asked p.world.silent f.clock]
        rfl
    · exact ((o.outside i _ away here).of_ask other).2 _
  | @queue i next here held away =>
    rw [List.append_nil]
    exact f.queue away here rfl
  | @enter i rest waiting free here => exact f.enter free (here.imp And.left And.left)
  | @leave i next here mine =>
    rw [List.append_nil]
    have mem := f.mustered.mem_of_ask prompt here (by simp)
    -- Leaving the gate is a request without an answer, so the serial run does not move.
    refine f.proceed still rfl mem here rfl (List.append_nil _).symm ?_ (.inl mine)
      (.inr ⟨mine, rfl⟩) fun _ => (o.inside_of_ready mine here).of_leave
    exact rfl

/-- When all tasks are over, the pool has come to what the serial run comes to, in any order that keeps
to the admissions. -/
theorem settled (f : Foreseen procedures d h p) (o : p.Orderly)
    (ended : ∀ r ∈ p.results, r.isSome = true) {order : List Nat}
    (all : order.Perm (List.range procedures.length))
    (keeps : Pool.KeepsTo order (admissions h)) :
    p.results = (List.range procedures.length).map (serially Desk.answer procedures order d).1 ∧
      p.world.silent = (serially Desk.answer procedures order d).2.silent ∧
      p.world.events.Perm (serially Desk.answer procedures order d).2.events := by
  have below : ∀ {i : Nat}, i ∈ order → i < procedures.length :=
    fun mem => List.mem_range.mp (all.mem_iff.mp mem)
  have idle : ∀ i ∈ order, (admissions h).contains i = false →
      ∃ a, procedures[i]? = some (.done a) := by
    intro i mem away
    obtain ⟨r, named⟩ : ∃ r, procedures[i]? = some r := ⟨_, List.getElem?_eq_getElem (below mem)⟩
    obtain ⟨-, a, rfl⟩ := f.mustered.done_of_not_mem ended (by simpa using away) named
    exact ⟨a, named⟩
  obtain ⟨same_world, same_results⟩ := @Pool.serially_filter Desk α Desk.answer procedures _ order d idle
  rw [keeps] at same_world same_results
  refine ⟨?_, ?_, ?_⟩
  · refine List.ext_getElem? fun i => ?_
    rw [Pool.results, List.getElem?_map, List.getElem?_map]
    by_cases lt : i < procedures.length
    · have named : procedures[i]? = some procedures[i] := List.getElem?_eq_getElem lt
      rw [List.getElem?_range lt]
      by_cases mem : i ∈ admissions h
      · obtain ⟨rest, here⟩ := f.mustered.ready i mem
        obtain ⟨a, eq⟩ := Pool.done_of_results ended here
        cases eq
        show _ = some _
        rw [same_results i (by simpa using mem), f.result i _ mem here, here]
        rfl
      · obtain ⟨here, a, eq⟩ := f.mustered.done_of_not_mem ended mem named
        rw [eq] at here named
        have listed : i ∈ order := all.mem_iff.mpr (List.mem_range.mpr lt)
        show _ = some _
        rw [Pool.serially_done named listed, here]
        rfl
    · have beyond : p.tasks.length ≤ i := by
        rw [f.mustered.size]
        omega
      rw [List.getElem?_eq_none beyond, List.getElem?_eq_none (by simpa using lt)]
      rfl
  · rw [same_world]
    exact (f.free (o.free_of_results ended)).symm
  · have nothing : (admissions h).flatMap (pending p) = [] := by
      refine List.flatMap_eq_nil_iff.mpr fun i mem => ?_
      obtain ⟨rest, here⟩ := f.mustered.ready i mem
      obtain ⟨a, eq⟩ := Pool.done_of_results ended here
      cases eq
      exact pending_of_ready here
    have recorded := f.events
    rw [nothing, List.append_nil] at recorded
    rw [same_world]
    exact recorded

end Foreseen

end Desk

namespace Lending

/-- While the clock stands still, calls that take turns in any order, each to its end, come to what
they come to one after the other, in the order in which they passed the gate, those that fail before
it standing anywhere: the results, the books, the loans with the next number, and the events but for
their order. -/
theorem serial_of_run {emit : EventSink} (sink : ∀ ev, (emit ev).Public) (errands : List Errand)
    {d : Desk} (still : d.clock.tick = 0) {schedule : List Nat}
    (ended : ∀ r ∈ ((pool emit errands d).run Desk.answer (schedule.map .step)).results,
      r.isSome = true) :
    let p := (pool emit errands d).run Desk.answer (schedule.map .step)
    let entered := admissions ((pool emit errands d).history Desk.answer (schedule.map .step))
    (∃ order : List Nat, order.Perm (List.range errands.length) ∧ Pool.KeepsTo order entered) ∧
    ∀ order : List Nat, order.Perm (List.range errands.length) → Pool.KeepsTo order entered →
      let serial := serially Desk.answer (errands.map (·.procedure emit)) order d
      p.results = (List.range errands.length).map serial.1 ∧
        p.world.shelf = serial.2.shelf ∧ p.world.ledger = serial.2.ledger ∧
        p.world.events.Perm serial.2.events := by
  intro p entered
  let procedures := errands.map (·.procedure emit)
  have size : procedures.length = errands.length := List.length_map ..
  have prompt : ∀ r ∈ procedures, r.Prompt := by
    intro r mem
    obtain ⟨e, -, rfl⟩ := List.mem_map.mp mem
    exact e.prompt emit
  have gated : ∀ r ∈ procedures, r.Gated := by
    intro r mem
    obtain ⟨e, -, rfl⟩ := List.mem_map.mp mem
    exact e.gated sink
  have steps : ∀ m ∈ schedule.map Pool.Move.step, ∃ i, m = (.step i : Pool.Move Desk) := by
    intro m mem
    obtain ⟨i, -, rfl⟩ := List.mem_map.mp mem
    exact ⟨i, rfl⟩
  obtain ⟨orderly, foreseen⟩ := Pool.run_keep (P := Desk.Foreseen procedures d)
    (fun o f turn => f.turn prompt still o turn) steps (Pool.Orderly.start d gated)
    (Desk.Foreseen.start procedures d)
  have within : ∀ i ∈ entered, i < errands.length := by
    intro i mem
    obtain ⟨rest, here⟩ := foreseen.mustered.ready i mem
    obtain ⟨lt, -⟩ := List.getElem?_eq_some_iff.mp here
    rw [foreseen.mustered.size, size] at lt
    exact lt
  refine ⟨Pool.exists_keepsTo foreseen.mustered.once within, ?_⟩
  intro order all keeps serial
  rw [← size] at all ⊢
  obtain ⟨results, silent, events⟩ := foreseen.settled orderly ended all keeps
  have shelf : p.world.silent.shelf = serial.2.silent.shelf := congrArg Desk.shelf silent
  have ledger : p.world.silent.ledger = serial.2.silent.ledger := congrArg Desk.ledger silent
  exact ⟨results, shelf, ledger, events⟩

/-- The one who returns comes first and finds no loan, and then the copy is lent. -/
theorem serial_of_run_oneCopy :
    let p := (pool recordingSink [borrowCopy, returnCopy] oneCopy).run Desk.answer
      ((List.replicate 12 [1, 0]).flatten.map .step)
    let serial := serially Desk.answer ([borrowCopy, returnCopy].map (·.procedure recordingSink))
      [1, 0] oneCopy
    p.results = (List.range 2).map serial.1 ∧ p.world.shelf = serial.2.shelf ∧
      p.world.ledger = serial.2.ledger ∧ p.world.events.Perm serial.2.events :=
  (serial_of_run recordingSink_public [borrowCopy, returnCopy] rfl (by decide)).2 [1, 0] (by decide)
    (by rfl)

end Lending

end Circulation
