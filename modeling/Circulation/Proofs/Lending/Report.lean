/- # Circulation.Proofs.Lending.Report -- one event for every loan made or settled

A call tells its news after it has left the gate, when other calls may have changed the stores again.
Up to the gate and behind it nothing is told (`Observed.silent`). When it leaves, its verdict is fixed
and fits the stores of that moment, and from then on it tells at most the news of that verdict, once
(`Past.turn`). So the record grows by one event for every call that made or settled a loan, and what
the event says was true when the call left the gate (`events_of_run`).
-/
import Circulation.Lending.Dispatch
import Circulation.Proofs.Lending.Standing
import Circulation.Proofs.Pool.Passage

namespace Circulation

open Time (Instant)

/-! ## The record in a history -/

/-- The event that a request records. -/
def Request.event? : Request → Option Event
  | record e => some e
  | _ => none

theorem Request.event?_of_isInner {q : Request} (inner : q.isInner = true) : q.event? = none := by
  cases q <;> first | rfl | exact absurd inner Bool.false_ne_true

/-- The record of events grows by what is asked to be recorded. -/
theorem Desk.events_answer_eq (q : Request) (d : Desk) :
    (Desk.answer q d).2.events = d.events ++ q.event?.toList := by
  cases q with
  | record e => rfl
  | store c => exact (Desk.answerStore_frame c d).2.1.trans (List.append_nil _).symm
  | _ => exact (List.append_nil _).symm

namespace Lending

/-- The events that were recorded in a history, with the calls that told them. -/
def recorded (h : List (Happening Desk)) : List (Nat × Event) :=
  h.filterMap fun x =>
    match x with
    | .asked i q _ => q.event?.map (i, ·)
    | .admitted _ => none

/-- The events that one call told. -/
def toldBy (h : List (Happening Desk)) (i : Nat) : List Event :=
  (recorded h).filterMap fun told => if told.1 = i then some told.2 else none

section Record

variable {h : List (Happening Desk)}

theorem recorded_asked (h : List (Happening Desk)) (i : Nat) (q : Request) (d : Desk) :
    recorded (h ++ [.asked i q d]) = recorded h ++ (q.event?.map (i, ·)).toList := by
  rw [recorded, List.filterMap_append]
  cases event : q.event? <;> simp [recorded, event]

theorem recorded_admitted (h : List (Happening Desk)) (i : Nat) :
    recorded (h ++ [.admitted i]) = recorded h := by
  rw [recorded, List.filterMap_append]
  exact List.append_nil _

theorem toldBy_admitted (h : List (Happening Desk)) (i : Nat) :
    toldBy (h ++ [.admitted i]) = toldBy h := by
  funext j
  rw [toldBy, recorded_admitted, toldBy]

theorem toldBy_asked_self (h : List (Happening Desk)) (i : Nat) (q : Request) (d : Desk) :
    toldBy (h ++ [.asked i q d]) i = toldBy h i ++ q.event?.toList := by
  rw [toldBy, recorded_asked, List.filterMap_append]
  cases q.event? <;> simp [toldBy]

theorem toldBy_asked_ne {i j : Nat} (ne : j ≠ i) (h : List (Happening Desk)) (q : Request) (d : Desk) :
    toldBy (h ++ [.asked j q d]) i = toldBy h i := by
  rw [toldBy, recorded_asked, List.filterMap_append]
  cases q.event? <;> simp [toldBy, ne]

/-- Who asked for nothing told nothing. -/
theorem toldBy_append_of_idle {i : Nat} {x : List (Happening Desk)}
    (idle : ∀ q s, Happening.asked i q s ∉ x) (h : List (Happening Desk)) :
    toldBy (h ++ x) i = toldBy h i := by
  induction x using List.reverseRecOn with
  | nil => rw [List.append_nil]
  | append_singleton x last ih =>
    have before := ih fun q s mem => idle q s (List.mem_append_left _ mem)
    rw [← List.append_assoc]
    cases last with
    | asked j q s =>
      have ne : j ≠ i := by
        rintro rfl
        exact idle q s (List.mem_append_right _ List.mem_cons_self)
      rw [toldBy_asked_ne ne, before]
    | admitted j => rw [toldBy_admitted, before]

theorem mem_recorded_iff {i : Nat} {ev : Event} : (i, ev) ∈ recorded h ↔ ev ∈ toldBy h i := by
  simp only [toldBy, List.mem_filterMap, Option.ite_none_right_eq_some, Option.some.injEq]
  constructor
  · exact fun mem => ⟨_, mem, rfl, rfl⟩
  · rintro ⟨⟨j, ev'⟩, mem, rfl, rfl⟩
    exact mem

theorem mem_tellers_iff {i : Nat} : i ∈ (recorded h).map Prod.fst ↔ toldBy h i ≠ [] := by
  rw [List.mem_map]
  constructor
  · rintro ⟨⟨j, ev⟩, mem, rfl⟩
    exact List.ne_nil_of_mem (mem_recorded_iff.mp mem)
  · intro told
    obtain ⟨ev, mem⟩ := List.exists_mem_of_ne_nil _ told
    exact ⟨(i, ev), mem_recorded_iff.mpr mem, rfl⟩

/-- If nobody told more than one event, all were told by different calls. -/
theorem nodup_tellers (once : ∀ i, (toldBy h i).length ≤ 1) :
    ((recorded h).map Prod.fst).Nodup := by
  refine List.nodup_iff_count_le_one.mpr fun i => ?_
  have counted : ((recorded h).map Prod.fst).count i = (toldBy h i).length := by
    rw [toldBy]
    induction recorded h with
    | nil => rfl
    | cons told rest ih =>
      by_cases same : told.1 = i <;> simp [same, ih]
  rw [counted]
  exact once i

end Record

/-! ## Telling the news -/

namespace Verdict

/-- What a call has told so far and what it has left to do, after it left the gate with a verdict. -/
inductive Telling (v : Verdict) : List Event → Procedure (Except Failure Served) → Prop
  | quiet (none_ : v.news = none) : Telling v [] (.done v.answer)
  | begun {event : Instant → Event} {notice : Notice} (news : v.news = some (event, notice)) :
      Telling v [] (.ask .readClock fun now => .ask (.record (event now)) fun _ =>
        .ask (.note notice none) fun _ => .done v.answer)
  | dated {event : Instant → Event} {notice : Notice} (news : v.news = some (event, notice))
      (now : Instant) :
      Telling v [] (.ask (.record (event now)) fun _ =>
        .ask (.note notice none) fun _ => .done v.answer)
  | told {event : Instant → Event} {notice : Notice} (news : v.news = some (event, notice))
      (now : Instant) : Telling v [event now] (.ask (.note notice none) fun _ => .done v.answer)
  | ended {event : Instant → Event} {notice : Notice} (news : v.news = some (event, notice))
      (now : Instant) : Telling v [event now] (.done v.answer)

/-- Nothing was told, or the news of the verdict. -/
def Told (v : Verdict) (events : List Event) : Prop :=
  events = [] ∨ ∃ news now, v.news = some news ∧ events = [news.1 now]

theorem telling_epilogue (v : Verdict) : v.Telling [] (v.epilogue recordingSink) := by
  unfold epilogue
  cases news : v.news with
  | none => exact .quiet news
  | some news' => exact .begun news

namespace Telling

variable {v : Verdict} {told : List Event}

theorem of_ask {q : Request} {next : q.Answer → Procedure (Except Failure Served)}
    (t : v.Telling told (.ask q next)) (a : q.Answer) :
    v.Telling (told ++ q.event?.toList) (next a) := by
  cases t with
  | begun news => exact .dated news a
  | dated news now => exact .told news now
  | told news now => exact .ended news now

/-- Whoever tells does not come to the gate. -/
theorem not_gate {next : Unit → Procedure (Except Failure Served)}
    (t : v.Telling told (.ask .enterGate next)) : False := by
  cases t

theorem told_news (t : v.Telling told rest) : v.Told told := by
  cases t with
  | quiet | begun | dated => exact .inl rfl
  | told news now => exact .inr ⟨_, now, news, rfl⟩
  | ended news now => exact .inr ⟨_, now, news, rfl⟩

/-- In the end the call has answered by its verdict and told its news, if there are any. -/
theorem of_done {r : Except Failure Served} (t : v.Telling told (.done r)) :
    r = v.answer ∧ (told ≠ [] ↔ v.news ≠ none) := by
  cases t with
  | quiet none_ => exact ⟨rfl, by simp [none_]⟩
  | ended news now => exact ⟨rfl, by simp [news]⟩

end Telling

/-- There are news if a loan was made or settled now. -/
theorem news_ne_none_iff (v : Verdict) :
    v.news ≠ none ↔
      ∃ loan, v.answer = .ok (.lent loan) ∨ v.answer = .ok (.givenBack (.returned loan)) := by
  cases v <;> simp [news, answer]

end Verdict

/-! ## From the gate to the news -/

/-- A pool that comes of calls at this desk, with what has happened in it. Nobody tells anything who
has not left the gate. -/
structure Observed (errands : List Errand) (d : Desk) (h : List (Happening Desk))
    (p : Pool Desk (Except Failure Served)) : Prop where
  tracked : Tracked (newsOf recordingSink) (fun _ => True) errands h p
  progress : Pool.Progress (errands.map (·.procedure recordingSink)) h p
  silent : ∀ i, Happening.admitted i ∉ h ∨ p.gate.holder = some i → toldBy h i = []
  record : p.world.events = d.events ++ (recorded h).map Prod.snd

/-- Everything may fail, and calls may be given up. -/
abbrev Anyhow : Pool.Move Desk → Prop := Permitted (fun _ => True) True

theorem Permitted.anyhow {may : Faults → Prop} {drops : Prop} {m : Pool.Move Desk}
    (permitted : Permitted may drops m) : Anyhow m := by
  cases m with
  | change f => exact fun d => ⟨(permitted d).1, (permitted d).2.1, id⟩
  | _ => trivial

theorem lasting_true : Lasting fun _ => True := fun _ _ => trivial

theorem prompt_errands (errands : List Errand) :
    ∀ r ∈ errands.map (·.procedure recordingSink), r.Prompt := by
  intro r mem
  obtain ⟨e, -, rfl⟩ := List.mem_map.mp mem
  exact e.prompt recordingSink

namespace Observed

variable {errands : List Errand} {d : Desk} {h : List (Happening Desk)}
  {p : Pool Desk (Except Failure Served)}

theorem start (errands : List Errand) (d : Desk) :
    Observed errands d [] (pool recordingSink errands d) where
  tracked := .start trivial (heralded_errands _ _ _)
  progress := .start _ _
  silent := fun _ _ => rfl
  record := (List.append_nil _).symm

theorem turn {x : List (Happening Desk)} {p' : Pool Desk (Except Failure Served)} (o : p.Orderly)
    (obs : Observed errands d h p) (turn : Pool.Turn Desk.answer Anyhow p x p') :
    Observed errands d (h ++ x) p' := by
  have tracked := (obs.tracked.turn lasting_true o turn).1
  have progress := obs.progress.turn (prompt_errands errands) o turn
  cases turn with
  | @change f ok =>
    rw [List.append_nil] at *
    exact ⟨tracked, progress, obs.silent, (ok p.world).2.1.trans obs.record⟩
  | @ask i q next here plain mine =>
    refine ⟨tracked, progress, fun j quiet => ?_, ?_⟩
    · by_cases eq : i = j
      · subst eq
        -- Only the holder asks before it leaves the gate, and it asks for nothing to be recorded.
        have mem := obs.progress.admitted_of_ask (prompt_errands errands) here (by
          rintro rfl
          cases plain)
        have held : p.gate.holder = some i := quiet.resolve_left fun away => away (by simpa using mem)
        obtain ⟨-, -, inner, -⟩ := (obs.tracked.holder i _ held here).of_ask plain
        rw [toldBy_asked_self, Request.event?_of_isInner inner, obs.silent i (.inr held)]
        rfl
      · rw [toldBy_asked_ne eq]
        exact obs.silent j (quiet.imp_left fun away mem => away (List.mem_append_left _ mem))
    · rw [recorded_asked, List.map_append, ← List.append_assoc, ← obs.record]
      refine (Desk.events_answer_eq q p.world).trans ?_
      cases q.event? <;> rfl
  | @queue i next here held away =>
    rw [List.append_nil] at *
    exact ⟨tracked, progress, obs.silent, obs.record⟩
  | @enter i rest waiting free here =>
    refine ⟨tracked, progress, fun j quiet => ?_, ?_⟩
    · rw [toldBy_admitted]
      refine obs.silent j (.inl ?_)
      rcases quiet with away | held
      · exact fun mem => away (List.mem_append_left _ mem)
      · -- Whoever is admitted was not admitted before.
        cases held
        have away : p.gate.holder ≠ some i := by
          rw [free]
          exact (Option.some_ne_none i).symm
        exact obs.progress.not_admitted_of_comer away (here.imp And.left And.left)
    · rw [recorded_admitted]
      exact obs.record
  | @leave i next here mine =>
    rw [List.append_nil] at *
    exact ⟨tracked, progress, fun j quiet => obs.silent j (quiet.imp_right fun held => by cases held),
      obs.record⟩
  | @abandon i rest ok here mine =>
    rw [List.append_nil] at *
    exact ⟨tracked, progress, fun j quiet => obs.silent j (quiet.imp_right fun held => by cases held),
      obs.record⟩
  | @quit i t ok here away =>
    rw [List.append_nil] at *
    exact ⟨tracked, progress, obs.silent, obs.record⟩

/-- Every run of calls is observed. -/
theorem run (errands : List Errand) (d : Desk) {schedule : List (Pool.Move Desk)}
    (any : ∀ m ∈ schedule, Anyhow m) :
    ((pool recordingSink errands d).run Desk.answer schedule).Orderly ∧
      Observed errands d ((pool recordingSink errands d).history Desk.answer schedule)
        ((pool recordingSink errands d).run Desk.answer schedule) :=
  Pool.run_keep (P := Observed errands d) (fun o obs turn => obs.turn o turn) any
    (pool_orderly recordingSink_public errands d) (.start errands d)

end Observed

/-- The call at a place has left the gate with a verdict and a deed, and tells its news or has been
given up. -/
structure Past (i : Nat) (v : Verdict) (deed : Deed) (h : List (Happening Desk))
    (p : Pool Desk (Except Failure Served)) : Prop where
  away : p.gate.holder ≠ some i
  kept : (∀ r, deed ≠ .nothing r) → Deed.inHistory h i = deed
  idle : ∀ r, deed = .nothing r → ∃ r', Deed.inHistory h i = .nothing r'
  tells : (∃ rest, p.tasks[i]? = some (.ready rest) ∧ v.Telling (toldBy h i) rest) ∨
    p.tasks[i]? = some .dropped ∧ v.Told (toldBy h i)

namespace Past

variable {i : Nat} {v : Verdict} {deed : Deed} {h : List (Happening Desk)}
  {p : Pool Desk (Except Failure Served)}

theorem told (past : Past i v deed h p) : v.Told (toldBy h i) := by
  rcases past.tells with ⟨rest, -, telling⟩ | ⟨-, told⟩
  · exact telling.told_news
  · exact told

/-- Another task and the gate change together. -/
theorem set (past : Past i v deed h p) {h' : List (Happening Desk)} {j : Nat}
    {t : Task (Except Failure Served)} {world : Desk} {gate : Gate Nat} (ne : j ≠ i)
    (away : gate.holder ≠ some i) (deeds : Deed.inHistory h' i = Deed.inHistory h i)
    (told : toldBy h' i = toldBy h i) : Past i v deed h' ⟨world, gate, p.tasks.set j t⟩ where
  away := away
  kept := by
    rw [deeds]
    exact past.kept
  idle := by
    rw [deeds]
    exact past.idle
  tells := by
    simp only [told, List.getElem?_set_ne ne]
    exact past.tells

/-- Out of the gate with its verdict, a call tells its news and does nothing else. -/
theorem turn {x : List (Happening Desk)} {p' : Pool Desk (Except Failure Served)}
    (o : p.Orderly) (past : Past i v deed h p)
    (turn : Pool.Turn Desk.answer Anyhow p x p') : Past i v deed (h ++ x) p' := by
  -- Whoever comes to the gate, or waits there, is somebody else.
  have comer : ∀ {j rest}, p.tasks[j]? = some (.ready (.ask .enterGate fun _ => rest)) ∨
      p.tasks[j]? = some (.waiting rest) → j ≠ i := by
    rintro j rest here rfl
    rcases past.tells with ⟨rest', there, telling⟩ | ⟨there, -⟩
    · rcases here with here | here
      · cases Option.some.inj (there.symm.trans here)
        exact telling.not_gate
      · cases Option.some.inj (there.symm.trans here)
    · rcases here with here | here <;> cases Option.some.inj (there.symm.trans here)
  have holder : ∀ {j}, p.gate.holder = some j → j ≠ i := by
    rintro j mine rfl
    exact past.away mine
  cases turn with
  | change ok =>
    rw [List.append_nil]
    exact ⟨past.away, past.kept, past.idle, past.tells⟩
  | @ask j q next here plain mine =>
    by_cases eq : j = i
    · subst eq
      have free := ((o.outside j _ past.away here).of_ask (by
        rintro rfl
        cases plain)).1
      refine ⟨past.away, fun busy => ?_, fun r nothing => ?_, .inl ⟨_, Pool.setTask_self _ here, ?_⟩⟩
      · -- A call that has done more than to look at the clock does nothing more.
        have kept := past.kept busy
        rw [Deed.inHistory_asked, Function.update_self, kept]
        rcases Deed.after_public deed free p.world with same | ⟨r, now, idle, -⟩
        · exact same
        · exact absurd idle (busy r)
      · obtain ⟨r', still⟩ := past.idle r nothing
        rw [Deed.inHistory_asked, Function.update_self, still]
        rcases Deed.after_public (.nothing r') free p.world with same | ⟨-, now, -, read⟩
        · exact ⟨r', same⟩
        · exact ⟨some now, read⟩
      · rw [toldBy_asked_self]
        rcases past.tells with ⟨rest, there, telling⟩ | ⟨there, -⟩
        · cases Option.some.inj (there.symm.trans here)
          exact telling.of_ask _
        · cases Option.some.inj (there.symm.trans here)
    · refine past.set eq past.away ?_ (toldBy_asked_ne eq _ _ _)
      rw [Deed.inHistory_asked, Function.update_of_ne (Ne.symm eq)]
  | @queue j next here held away =>
    rw [List.append_nil]
    have comes : p.tasks[j]? = some (.ready (.ask .enterGate fun _ => next ())) := here
    exact past.set (comer (.inl comes)) past.away rfl rfl
  | @enter j rest waiting free here =>
    have ne := comer (here.imp And.left And.left)
    exact past.set ne (fun held => ne (Option.some.inj held)) (by rw [Deed.inHistory_admitted])
      (by rw [toldBy_admitted])
  | @leave j next here mine =>
    rw [List.append_nil]
    exact past.set (holder mine) (fun held => by cases held) rfl rfl
  | @abandon j rest ok here mine =>
    rw [List.append_nil]
    exact past.set (holder mine) (fun held => by cases held) rfl rfl
  | @quit j t ok here away =>
    rw [List.append_nil]
    by_cases eq : j = i
    · subst eq
      exact ⟨past.away, past.kept, past.idle, .inr ⟨Pool.setTask_self _ here, past.told⟩⟩
    · exact past.set eq past.away rfl rfl

end Past

/-- Passing on the gate is neither a deed nor told. -/
theorem inHistory_nextIn (h : List (Happening Desk)) (p : Pool Desk (Except Failure Served)) :
    Deed.inHistory (h ++ p.nextIn) = Deed.inHistory h := by
  unfold Pool.nextIn
  cases p.gate.waiting.head? with
  | none => rw [Option.map_none, Option.toList_none, List.append_nil]
  | some j => exact Deed.inHistory_admitted h j

theorem not_asked_nextIn (p : Pool Desk (Except Failure Served)) (i : Nat) (q : Request) (d : Desk) :
    Happening.asked i q d ∉ p.nextIn := by
  unfold Pool.nextIn
  cases p.gate.waiting.head? <;> simp

/-- What has become of the call at a place by the end of a schedule, under faults of this kind. -/
inductive Fate (may : Faults → Prop) (start : Pool Desk (Except Failure Served))
    (errands : List Errand) (schedule : List (Pool.Move Desk)) (i : Nat) : Prop
  /-- It has not passed the gate; if it is over, it lacks what it needs. -/
  | outside (fresh : Happening.admitted i ∉ start.history Desk.answer schedule)
      (silent : toldBy (start.history Desk.answer schedule) i = [])
      (fails : ∀ r, (start.run Desk.answer schedule).tasks[i]? = some (.ready (.done r)) →
        ∃ e f, errands[i]? = some e ∧ e.section? = .error f ∧ r = .error f)
  | inside (mine : (start.run Desk.answer schedule).gate.holder = some i)
      (silent : toldBy (start.history Desk.answer schedule) i = [])
  /-- It was given up while it held the gate. -/
  | givenUp (gone : (start.run Desk.answer schedule).tasks[i]? = some .dropped)
      (silent : toldBy (start.history Desk.answer schedule) i = [])
  /-- It left the gate with a verdict that fits the stores of that moment. -/
  | departed {e : Errand} {v : Verdict} {deed : Deed} {earlier later : List (Pool.Move Desk)}
      (named : errands[i]? = some e) (parts : schedule = earlier ++ .step i :: later)
      (leaves : Pool.LeavesFrom Desk.answer start schedule i (start.run Desk.answer earlier))
      (was : Deed.inHistory (start.history Desk.answer earlier) i = deed)
      (exit : Exit may e deed (start.run Desk.answer earlier).world.stores v)
      (past : Past i v deed (start.history Desk.answer schedule) (start.run Desk.answer schedule))

/-- Whoever has news has done more than to look at the clock. -/
theorem Exit.busy {may : Faults → Prop} {e : Errand} {deed : Deed} {st : Stores} {v : Verdict}
    (exit : Exit may e deed st v) (news : v.news ≠ none) (r : Option Instant) :
    deed ≠ .nothing r := by
  rintro rfl
  cases exit <;> exact news rfl

/-- Whoever is given up tells nothing any more. -/
theorem silent_of_dropped {p : Pool Desk (Except Failure Served)} (o : p.Orderly) {i : Nat}
    (dropped : p.tasks[i]? = some .dropped) {h : List (Happening Desk)} (silent : toldBy h i = [])
    {schedule : List (Pool.Move Desk)} (any : ∀ m ∈ schedule, Anyhow m) :
    (p.run Desk.answer schedule).tasks[i]? = some .dropped ∧
      toldBy (h ++ p.history Desk.answer schedule) i = [] := by
  let Gone (h : List (Happening Desk)) (p : Pool Desk (Except Failure Served)) : Prop :=
    p.tasks[i]? = some .dropped ∧ toldBy h i = []
  have gone_by_turn : ∀ {h x : List (Happening Desk)} {p p' : Pool Desk (Except Failure Served)},
      p.Orderly → Gone h p → Pool.Turn Desk.answer Anyhow p x p' → Gone (h ++ x) p' := by
    intro h x p p' _ ⟨dropped, silent⟩ turn
    obtain ⟨still, idle⟩ := turn.of_dropped dropped
    exact ⟨still, (toldBy_append_of_idle idle h).trans silent⟩
  have begun : Gone h p := ⟨dropped, silent⟩
  exact (Pool.run_keep gone_by_turn any o begun).2

/-- A call that is over at its beginning lacks what it needs. -/
theorem Errand.failed_of_done {emit : EventSink} {e : Errand} {r : Except Failure Served}
    (h : e.procedure emit = .done r) : ∃ f, e.section? = .error f ∧ r = .error f := by
  rw [Errand.procedure_eq] at h
  cases behind : e.section? with
  | error f =>
    rw [behind] at h
    exact ⟨f, rfl, (Procedure.done.inj h).symm⟩
  | ok p =>
    rw [behind] at h
    cases h

/-- A call that is over without having passed the gate lacks what it needs. -/
theorem Observed.failed_of_fresh {errands : List Errand} {d : Desk} {h : List (Happening Desk)}
    {p : Pool Desk (Except Failure Served)} (obs : Observed errands d h p) {i : Nat}
    (fresh : Happening.admitted i ∉ h) {r : Except Failure Served}
    (ended : p.tasks[i]? = some (.ready (.done r))) :
    ∃ e f, errands[i]? = some e ∧ e.section? = .error f ∧ r = .error f := by
  rcases obs.progress.fresh i _ fresh ended with ⟨p, named, eq⟩ | ⟨rest, -, eq⟩ | eq
  · obtain ⟨e, listed, rfl⟩ := Option.map_eq_some_iff.mp ((List.getElem?_map ..).symm.trans named)
    obtain ⟨f, lacks, failed⟩ := e.failed_of_done (Task.ready.inj eq).symm
    exact ⟨e, f, listed, lacks, failed⟩
  · cases eq
  · cases eq

/-- Leaving the gate, a call has its verdict, and its news are all that it has left to do. -/
theorem Observed.past_of_leave {errands : List Errand} {d : Desk} {h : List (Happening Desk)}
    {p : Pool Desk (Except Failure Served)} (obs : Observed errands d h p) {may : Faults → Prop}
    (tracked : Tracked (newsOf recordingSink) may errands h p) {i : Nat}
    {next : Unit → Procedure (Except Failure Served)} (held : p.gate.holder = some i)
    (here : p.tasks[i]? = some (.ready (.ask .leaveGate next)))
    {p' : Pool Desk (Except Failure Served)} (gone : p'.gate.holder ≠ some i)
    (there : p'.tasks[i]? = some (.ready (next ()))) :
    ∃ e v, errands[i]? = some e ∧
      Exit may e (Deed.inHistory h i) p.world.stores v ∧
      Past i v (Deed.inHistory h i) (h ++ p.nextIn) p' := by
  obtain ⟨e, v, named, exit, epilogue⟩ := (tracked.holder i _ held here).of_leave
  refine ⟨e, v, named, exit, gone, fun _ => ?_, fun r nothing => ⟨r, ?_⟩, .inl ⟨_, there, ?_⟩⟩
  · rw [inHistory_nextIn]
  · rw [inHistory_nextIn, nothing]
  · rw [toldBy_append_of_idle (not_asked_nextIn p i), obs.silent i (.inr held), epilogue]
    exact v.telling_epilogue

/-- By the end of a run each call is outside or behind the gate, or it was given up there, or it has
left with a verdict. -/
theorem fate_of_run {may : Faults → Prop} (lasting : Lasting may) {drops : Prop}
    (errands : List Errand) (d : Desk) (ok : may d.faults) {schedule : List (Pool.Move Desk)}
    (permitted : ∀ m ∈ schedule, Permitted may drops m) (i : Nat) :
    Fate may (pool recordingSink errands d) errands schedule i := by
  let start := pool recordingSink errands d
  have any : ∀ m ∈ schedule, Anyhow m := fun m mem => (permitted m mem).anyhow
  obtain ⟨-, whole⟩ := Observed.run errands d any
  by_cases mem : Happening.admitted i ∈ start.history Desk.answer schedule
  · by_cases mine : (start.run Desk.answer schedule).gate.holder = some i
    · exact .inside mine (whole.silent i (.inr mine))
    · -- It held the gate and does not any more: look at the move by which it parted from it.
      obtain ⟨earlier, m, later, rfl, held, gone⟩ := Pool.exists_parting mem mine
      have any_earlier : ∀ m ∈ earlier, Anyhow m := fun m mem => any m (List.mem_append_left _ mem)
      have any_later : ∀ m ∈ later, Anyhow m := fun m mem =>
        any m (List.mem_append_right _ (List.mem_cons_of_mem _ mem))
      obtain ⟨o, obs⟩ := Observed.run errands d any_earlier
      have tracked := ((Tracked.start ok (heralded_errands recordingSink may errands)).run lasting
        (pool_orderly recordingSink_public errands d)
        fun m mem => permitted m (List.mem_append_left _ mem)).1
      rw [List.nil_append] at tracked
      let before := start.run Desk.answer earlier
      let so_far := start.history Desk.answer earlier
      have o' : (before.move Desk.answer m).Orderly := (o.run [m] : (before.run Desk.answer [m]).Orderly)
      obtain ⟨passed_on, parting⟩ := o.parts_of_move held gone
      have run_eq : start.run Desk.answer (earlier ++ m :: later) =
          (before.move Desk.answer m).run Desk.answer later := Pool.run_append start earlier (m :: later)
      have history_eq : start.history Desk.answer (earlier ++ m :: later) =
          (so_far ++ before.nextIn) ++ (before.move Desk.answer m).history Desk.answer later := by
        rw [Pool.history_append, List.append_assoc, ← passed_on]
        rfl
      rcases parting with ⟨rfl, dropped⟩ | ⟨rfl, next, here, there⟩
      · -- Given up behind the gate, it tells nothing.
        have silent : toldBy (so_far ++ before.nextIn) i = [] := by
          rw [toldBy_append_of_idle (not_asked_nextIn before i)]
          exact obs.silent i (.inr held)
        obtain ⟨dropped', silent'⟩ := silent_of_dropped o' dropped silent any_later
        rw [← run_eq] at dropped'
        rw [← history_eq] at silent'
        exact .givenUp dropped' silent'
      · obtain ⟨e, v, named, exit, begun⟩ := obs.past_of_leave tracked held here gone there
        have past := (Pool.run_keep (fun o past turn => past.turn o turn) any_later o' begun).2
        rw [← run_eq, ← history_eq] at past
        exact .departed named rfl ⟨earlier, later, rfl, rfl, held, gone⟩ rfl exit past
  · exact .outside mem (whole.silent i (.inl mem)) fun r ended => whole.failed_of_fresh mem ended

/-! ## What a call wrote -/

/-- A loan is complete once the book was written. -/
theorem Deed.of_after_eq_lent {deed : Deed} {q : Request} {d : Desk} {loan : Loan} {book : Book}
    (h : deed.after q d = .lent loan book) :
    deed = .lent loan book ∨ q = .store (.saveBook book) ∧ d.saves book = true := by
  -- Only a write can complete a loan, and only one that was stored before.
  cases q with
  | store c =>
    cases deed with
    | lent loan' book' => exact .inl h
    | opened loan' =>
      cases c with
      | saveBook b =>
        by_cases saved : d.saves b = true
        · simp only [after, saved, if_true] at h
          cases h
          exact .inr ⟨rfl, saved⟩
        · simp [after, saved] at h
      | _ => cases h
    | nothing r =>
      cases c with
      | createLoan draft =>
        simp only [after] at h
        split at h <;> cases h
      | markReturned id user at_ =>
        simp only [after] at h
        split at h <;> cases h
      | _ => cases h
    | settled loan' =>
      cases c with
      | saveBook b =>
        simp only [after] at h
        split at h <;> cases h
      | _ => cases h
    | restocked loan' book' => cases h
  | _ =>
    cases deed with
    | lent loan' book' => exact .inl h
    | _ => cases h

/-- Behind a complete loan there is the write of its book. -/
theorem saved_of_lent {h : List (Happening Desk)} {i : Nat} {loan : Loan} {book : Book}
    (lent : Deed.inHistory h i = .lent loan book) :
    ∃ found : Desk, Happening.asked i (.store (.saveBook book)) found ∈ h ∧
      found.saves book = true := by
  induction h using List.reverseRecOn with
  | nil => cases lent
  | append_singleton h last ih =>
    have earlier : Deed.inHistory h i = .lent loan book → ∃ found : Desk,
        Happening.asked i (.store (.saveBook book)) found ∈ h ++ [last] ∧ found.saves book = true := by
      intro before
      obtain ⟨found, mem, saved⟩ := ih before
      exact ⟨found, List.mem_append_left _ mem, saved⟩
    cases last with
    | admitted j =>
      rw [Deed.inHistory_admitted] at lent
      exact earlier lent
    | asked j q d =>
      rw [Deed.inHistory_asked] at lent
      by_cases eq : i = j
      · subst eq
        rw [Function.update_self] at lent
        rcases Deed.of_after_eq_lent lent with before | ⟨rfl, saved⟩
        · exact earlier before
        · exact ⟨d, List.mem_append_right _ List.mem_cons_self, saved⟩
      · rw [Function.update_of_ne eq] at lent
        exact earlier lent

/-- Whatever a call wrote to the stock is the book of its loan. -/
def Deed.Coherent : Deed → Prop
  | lent loan book | restocked loan book => book.id = loan.bookId
  | _ => True

theorem Advance.coherent {e : Errand} {deed deed' : Deed} {st st' : Stores}
    (a : Advance e deed st deed' st') (before : deed.Coherent) : deed'.Coherent := by
  cases a with
  | stay => exact before
  | @take loan found st there copies =>
    have own : found.id = loan.bookId := Shelf.id_of_find? there
    exact own
  | @restock loan found st there room =>
    have own : found.id = loan.bookId := Shelf.id_of_find? there
    exact own
  | _ => trivial

theorem Shift.coherent_step {may : Faults → Prop} {drops : Prop} {errands : List Errand}
    {s s' : Shift} (h : Step may drops errands s s') (before : ∀ i, (s.deeds i).Coherent) (i : Nat) :
    (s'.deeds i).Coherent := by
  cases h with
  | @advance j e deed st mine named advance =>
    exact (Function.forall_update_iff s.deeds fun _ deed => deed.Coherent).mpr
      ⟨advance.coherent (before j), fun k _ => before k⟩ i
  | @glance j r now idle =>
    refine (Function.forall_update_iff s.deeds fun _ deed => deed.Coherent).mpr
      ⟨?_, fun k _ => before k⟩ i
    trivial
  | _ => exact before i

theorem coherent_of_run (errands : List Errand) (d : Desk) {schedule : List (Pool.Move Desk)}
    (any : ∀ m ∈ schedule, Anyhow m) (i : Nat) :
    (Deed.inHistory ((pool recordingSink errands d).history Desk.answer schedule) i).Coherent := by
  have reached := reaches_run recordingSink_public lasting_true errands (d := d) trivial any
  have begun : ∀ i, ((Shift.start d.stores).deeds i).Coherent := fun _ => trivial
  exact reached.keep (P := fun s => ∀ i, (s.deeds i).Coherent) Shift.coherent_step begun i

/-! ## One event for every success -/

/-- The call at a place tells this event, and it is true: of the loan as it is stored, and of the
copies as this call wrote them, or as they were when it left the gate. -/
inductive Mirrors (start : Pool Desk (Except Failure Served)) (errands : List Errand)
    (schedule : List (Pool.Move Desk)) (i : Nat) : Event → Prop
  | requested {c : Command} {loan stored : Loan} {book : Book} {found : Desk} (now : Instant)
      (call : errands[i]? = some (.borrow c))
      (answered : ∀ r, (start.run Desk.answer schedule).results[i]? = some (some r) →
        r = .ok (.lent loan))
      (there : (start.run Desk.answer schedule).world.ledger.find? loan.id = some stored)
      (as_made : stored = loan ∨ ∃ at_, stored = loan.settled at_) (subject : book.id = loan.bookId)
      (wrote : Happening.asked i (.store (.saveBook book)) found ∈ start.history Desk.answer schedule)
      (saved : found.saves book = true) :
      Mirrors start errands schedule i (.requested stored book.availableCopies now)
  | returned {c : Command} {loan : Loan} {before : Pool Desk (Except Failure Served)} (now : Instant)
      (call : errands[i]? = some (.giveBack c)) (named : c.payload.loanId = some loan.id)
      (answered : ∀ r, (start.run Desk.answer schedule).results[i]? = some (some r) →
        r = .ok (.givenBack (.returned loan)))
      (there : (start.run Desk.answer schedule).world.ledger.find? loan.id = some loan)
      (leaves : Pool.LeavesFrom Desk.answer start schedule i before) :
      Mirrors start errands schedule i
        (.returned loan ((before.world.shelf.find? loan.bookId).map (·.availableCopies)) now)

/-- A call with news has lent a book, or it has settled a loan and tells the copies on the shelf. -/
theorem Exit.of_news {may : Faults → Prop} {e : Errand} {deed : Deed} {st : Stores} {v : Verdict}
    (exit : Exit may e deed st v) (news : v.news ≠ none) :
    (∃ loan book, v = .lent loan book ∧ deed = .lent loan book) ∨
      ∃ loan, v = .returned loan ((st.shelf.find? loan.bookId).map (·.availableCopies)) ∧
        deed.settled? = some loan := by
  cases exit with
  | @lent loan book st => exact .inl ⟨loan, book, rfl, rfl⟩
  | @bookGone loan st gone => exact .inr ⟨loan, by rw [gone]; rfl, rfl⟩
  | @fullyStocked loan found st there full => exact .inr ⟨loan, by rw [there]; rfl, rfl⟩
  | @restocked loan book st there => exact .inr ⟨loan, by rw [there]; rfl, rfl⟩
  | _ => exact absurd rfl news

/-- What a call tells after it left the gate mirrors what it did. -/
theorem mirrors_of_departed {errands : List Errand} {d : Desk} (numbered : d.ledger.Numbered)
    {schedule : List (Pool.Move Desk)} (any : ∀ m ∈ schedule, Anyhow m) {i : Nat} {e : Errand}
    {v : Verdict} {deed : Deed} {before : Pool Desk (Except Failure Served)}
    (leaves : Pool.LeavesFrom Desk.answer (pool recordingSink errands d) schedule i before)
    (exit : Exit (fun _ => True) e deed before.world.stores v)
    (past : Past i v deed ((pool recordingSink errands d).history Desk.answer schedule)
      ((pool recordingSink errands d).run Desk.answer schedule))
    {event : Instant → Event} {notice : Notice} (news : v.news = some (event, notice))
    (now : Instant) :
    Mirrors (pool recordingSink errands d) errands schedule i (event now) := by
  have standing := standing_of_run recordingSink_public errands numbered any
  have kept := past.kept (exit.busy (by simp [news]))
  have answered : ∀ r, ((pool recordingSink errands d).run Desk.answer schedule).results[i]? =
      some (some r) → r = v.answer := by
    intro r ended
    have here := Pool.results_eq_some_iff.mp ended
    rcases past.tells with ⟨rest, there, telling⟩ | ⟨there, -⟩
    · cases Option.some.inj (there.symm.trans here)
      exact telling.of_done.1
    · cases Option.some.inj (there.symm.trans here)
  rcases exit.of_news (by simp [news]) with ⟨loan, book, rfl, rfl⟩ | ⟨loan, rfl, was⟩
  · cases news
    have made := congrArg Deed.made? kept
    obtain ⟨-, c, call, -⟩ := standing.maker i loan made
    obtain ⟨stored, there, since⟩ := standing.find?_of_made made
    obtain ⟨found, wrote, saved⟩ := saved_of_lent kept
    have subject : book.id = loan.bookId := by
      have coherent := coherent_of_run errands d any i
      rw [kept] at coherent
      exact coherent
    rcases since with rfl | ⟨k, at_, -, rfl⟩
    · exact .requested now call answered there (.inl rfl) subject wrote saved
    · -- Settling leaves alone what the event tells of a loan.
      have same : Event.requested loan book.availableCopies now =
          .requested (loan.settled at_) book.availableCopies now := rfl
      rw [same]
      exact .requested now call answered there (.inr ⟨at_, rfl⟩) subject wrote saved
  · cases news
    rw [← kept] at was
    obtain ⟨there, -, c, call, named⟩ := standing.settler i loan was
    exact .returned now call named answered there leaves

section Run

variable {errands : List Errand} {d : Desk} {schedule : List (Pool.Move Desk)}

theorem told_once_of_run (any : ∀ m ∈ schedule, Anyhow m) (i : Nat) :
    (toldBy ((pool recordingSink errands d).history Desk.answer schedule) i).length ≤ 1 := by
  cases fate_of_run lasting_true errands d trivial any i with
  | outside _ silent | inside _ silent | givenUp _ silent => simp [silent]
  | departed _ _ leaves _ exit past =>
    rcases past.told with none_ | ⟨event, now, -, one⟩
    · simp [none_]
    · simp [one]

/-- A call that is over has told something if it made a loan or settled one now. -/
theorem told_iff_of_run (any : ∀ m ∈ schedule, Anyhow m) {i : Nat} {r : Except Failure Served}
    (ended : ((pool recordingSink errands d).run Desk.answer schedule).results[i]? = some (some r)) :
    toldBy ((pool recordingSink errands d).history Desk.answer schedule) i ≠ [] ↔
      ∃ loan, r = .ok (.lent loan) ∨ r = .ok (.givenBack (.returned loan)) := by
  have here := Pool.results_eq_some_iff.mp ended
  cases fate_of_run lasting_true errands d trivial any i with
  | outside fresh silent fails =>
    obtain ⟨-, f, -, -, rfl⟩ := fails r here
    simp [silent]
  | inside mine silent =>
    -- Whoever holds the gate has it still to leave.
    obtain ⟨rest, there, inside⟩ := (Observed.run errands d any).1.inside i mine
    cases Option.some.inj (there.symm.trans here)
    cases inside
  | givenUp gone silent => cases Option.some.inj (gone.symm.trans here)
  | departed named _ leaves _ exit past =>
    rcases past.tells with ⟨rest, there, telling⟩ | ⟨there, -⟩
    · cases Option.some.inj (there.symm.trans here)
      obtain ⟨rfl, told⟩ := telling.of_done
      rw [told, Verdict.news_ne_none_iff]
    · cases Option.some.inj (there.symm.trans here)

theorem mirrors_of_run (numbered : d.ledger.Numbered) (any : ∀ m ∈ schedule, Anyhow m) {i : Nat}
    {ev : Event}
    (told : ev ∈ toldBy ((pool recordingSink errands d).history Desk.answer schedule) i) :
    Mirrors (pool recordingSink errands d) errands schedule i ev := by
  cases fate_of_run lasting_true errands d trivial any i with
  | outside _ silent | inside _ silent | givenUp _ silent =>
    rw [silent] at told
    exact absurd told List.not_mem_nil
  | departed named _ leaves _ exit past =>
    rcases past.told with none_ | ⟨⟨event, notice⟩, now, news, one⟩
    · rw [none_] at told
      exact absurd told List.not_mem_nil
    · rw [one, List.mem_singleton] at told
      subst told
      exact mirrors_of_departed numbered any leaves exit past news now

end Run

/-- A message that holds no command, or one of unknown kind, leads to requests that leave every desk
as it is. -/
theorem asks_nothing_of_dispatch (emit : EventSink) (policy : RetryPolicy) {message : Bytes}
    (idle : ∀ c, Command.decode? message = some c → c.kind = .unknown) :
    (Dispatcher.dispatch ⟨emit, policy⟩ message).Asks fun q => ∀ d, (Desk.answer q d).2 = d := by
  rw [Dispatcher.dispatch]
  cases read : Command.decode? message with
  | none => exact .ask (fun _ => rfl) fun _ => .done _
  | some c =>
    dsimp only
    rw [Dispatcher.handle, idle c read]
    exact .ask (fun _ => rfl) fun _ => .done _

/-- Whatever the schedule, the faults and the calls that are given up: the record grows by one event for
every call that made a loan or settled one now, and by none for any other; each event tells the loan
as it is stored, with the copies that the call wrote, or those that were on the shelf when it left the
gate. Messages that hold no known command change nothing, whatever else goes on. -/
theorem events_of_run (errands : List Errand) {d : Desk} (numbered : d.ledger.Numbered)
    {schedule : List (Pool.Move Desk)} (any : ∀ m ∈ schedule, Permitted (fun _ => True) True m) :
    let start := pool recordingSink errands d
    let p := start.run Desk.answer schedule
    let news := recorded (start.history Desk.answer schedule)
    p.world.events = d.events ++ news.map Prod.snd ∧
      (news.map Prod.fst).Nodup ∧
      (∀ i r, p.results[i]? = some (some r) →
        (i ∈ news.map Prod.fst ↔
          ∃ loan, r = .ok (.lent loan) ∨ r = .ok (.givenBack (.returned loan)))) ∧
      (∀ i ev, (i, ev) ∈ news → Mirrors start errands schedule i ev) ∧
      ∀ policy message, (∀ c, Command.decode? message = some c → c.kind = .unknown) →
        (Dispatcher.dispatch ⟨recordingSink, policy⟩ message).Asks fun q =>
          ∀ d, (Desk.answer q d).2 = d := by
  intro start p news
  obtain ⟨-, obs⟩ := Observed.run errands d any
  refine ⟨obs.record, nodup_tellers (told_once_of_run any), fun i r ended => ?_, fun i ev mem => ?_,
    fun policy message idle => asks_nothing_of_dispatch recordingSink policy idle⟩
  · rw [mem_tellers_iff]
    exact told_iff_of_run any ended
  · exact mirrors_of_run numbered any (mem_recorded_iff.mp mem)

/-- A call leaves the gate, another one passes through it to its end, and only then the first one tells
its news. -/
def lateNews : List Nat := List.replicate 7 0 ++ List.replicate 10 1 ++ List.replicate 3 0

/-- The copy is lent and given back before the first call tells that none was left. -/
theorem events_of_run_oneCopy :
    let start := pool recordingSink [borrowCopy, returnCopy] oneCopy
    let p := start.run Desk.answer (lateNews.map .step)
    let news := recorded (start.history Desk.answer (lateNews.map .step))
    p.world.events.map (fun e => (e.kind, e.remainingCopies)) =
        [(.returned, some 1), (.requested, some 0)] ∧
      p.world.events = oneCopy.events ++ news.map Prod.snd ∧ (news.map Prod.fst).Nodup := by
  obtain ⟨grown, once, -⟩ := events_of_run [borrowCopy, returnCopy] (d := oneCopy)
    Ledger.numbered_empty (permitted_steps _ _ lateNews)
  exact ⟨by decide +kernel, grown, once⟩

end Lending

end Circulation
