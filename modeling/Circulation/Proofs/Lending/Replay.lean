/- # Circulation.Proofs.Lending.Replay -- to return a loan again is to do nothing

A settled loan stays as it is. So a call to return it that comes to the gate later finds it settled,
whatever else goes on, and has nothing to do but to say so: none of its steps changes the desk, and it
answers that the loan was settled before, or that it belongs to somebody else (`Repeats.turn`). Since
only one call can settle a loan, its copy is put back at most once and its return is told at most once.
-/
import Circulation.Proofs.Lending.Report

namespace Circulation

open Time (Instant)

/-- The event tells that this loan was returned. -/
def Event.tellsReturn (id : LoanId) (ev : Event) : Bool :=
  decide (ev.kind = .returned) && decide (ev.loanId = id)

namespace Lending

/-! ## The course of a replay -/

/-- What a command to return a settled loan is answered. -/
def replayed (c : Command) (loan : Loan) : Except Failure Served :=
  match c.payload.userId with
  | none => .ok (.givenBack (.alreadySettled loan))
  | some user =>
    if user = loan.userId then .ok (.givenBack (.alreadySettled loan))
    else .error (.ownershipMismatch loan.id loan.userId user)

/-- If this loan is found under the number, the procedure passes and leaves the gate, looks the loan up
and gives notices, asks for nothing else, and has this result. -/
inductive Replays (id : LoanId) (loan : Loan) (r : Except Failure Served) :
    Procedure (Except Failure Served) → Prop
  | done : Replays id loan r (.done r)
  | enter {next : Unit → Procedure (Except Failure Served)} :
      Replays id loan r (next ()) → Replays id loan r (.ask .enterGate next)
  | leave {next : Unit → Procedure (Except Failure Served)} :
      Replays id loan r (next ()) → Replays id loan r (.ask .leaveGate next)
  | note {n : Notice} {s : Option Span} {next : Unit → Procedure (Except Failure Served)} :
      Replays id loan r (next ()) → Replays id loan r (.ask (.note n s) next)
  | find {next : Except StoreError (Option Loan) → Procedure (Except Failure Served)} :
      Replays id loan r (next (.ok (some loan))) → Replays id loan r (.ask (.store (.findLoan id)) next)

namespace Replays

variable {id : LoanId} {loan : Loan} {r : Except Failure Served}

/-- What a replay asks leaves the desk as it is, and it goes on as one. -/
theorem of_ask {q : Request} {next : q.Answer → Procedure (Except Failure Served)}
    (h : Replays id loan r (.ask q next)) {d : Desk} (there : d.ledger.find? id = some loan) :
    (Desk.answer q d).2 = d ∧ Replays id loan r (next (Desk.answer q d).1) := by
  cases h with
  | enter rest => exact ⟨rfl, rest⟩
  | leave rest => exact ⟨rfl, rest⟩
  | note rest => exact ⟨rfl, rest⟩
  | @find next rest =>
    refine ⟨rfl, ?_⟩
    show Replays id loan r (next (.ok (d.ledger.find? id)))
    rw [there]
    exact rest

/-- Run alone, a replay comes to its result and leaves the desk as it is. -/
theorem run {p : Procedure (Except Failure Served)} (h : Replays id loan r p) {d : Desk}
    (there : d.ledger.find? id = some loan) : p.run Desk.answer d = (r, d) := by
  induction p with
  | done a =>
    cases h
    rfl
  | ask q next ih =>
    obtain ⟨same, rest⟩ := h.of_ask there
    show (next (Desk.answer q d).1).run Desk.answer (Desk.answer q d).2 = _
    rw [same]
    exact ih _ rest

end Replays

/-- A call to return a settled loan is a replay. -/
theorem replays_procedure (emit : EventSink) {c : Command} {loan : Loan}
    (named : c.payload.loanId = some loan.id) (past : loan.isBorrowed = false) :
    Replays loan.id loan (replayed c loan) ((Errand.giveBack c).procedure emit) := by
  have found : ∀ k : Except Failure (Option Loan) → Procedure (Except Failure Served),
      Replays loan.id loan (replayed c loan) (k (.ok (some loan))) →
        Replays loan.id loan (replayed c loan) ((findLoan loan.id).run.andThen k) :=
    fun k rest => .find rest
  rw [Errand.procedure_eq]
  simp only [Errand.section?, named]
  refine .enter ?_
  simp only [Errand.behindGate, Procedure.andThen_assoc, settle, Attempt.run_bind_andThen,
    Attempt.run_need_andThen]
  refine found _ ?_
  -- What is left after the look-up depends on the owner only.
  have settled_before : Replays loan.id loan (.ok (.givenBack (.alreadySettled loan)))
      (.ask (.note (.loanAlreadySettled loan.id loan.status) none) fun _ =>
        .ask .leaveGate fun _ => .done (.ok (.givenBack (.alreadySettled loan)))) :=
    .note (.leave .done)
  unfold replayed
  cases c.payload.userId with
  | none =>
    simp only [checkOwner, past]
    exact settled_before
  | some user =>
    by_cases owner : user = loan.userId
    · simp only [checkOwner, past, owner, if_true]
      exact settled_before
    · simp only [checkOwner, owner, if_false]
      exact .leave .done

/-! ## Replays in a pool -/

/-- What the call at a place has left to do is a replay. -/
def Repeats (id : LoanId) (loan : Loan) (r : Except Failure Served) (i : Nat)
    (p : Pool Desk (Except Failure Served)) : Prop :=
  ∀ rest, p.tasks[i]? = some (.ready rest) ∨ p.tasks[i]? = some (.waiting rest) →
    Replays id loan r rest

namespace Repeats

variable {id : LoanId} {loan : Loan} {r : Except Failure Served} {i : Nat}
  {p p' : Pool Desk (Except Failure Served)}

/-- One task changes. -/
theorem set (rep : Repeats id loan r i p) {j : Nat} {t t₀ : Task (Except Failure Served)}
    {world : Desk} {gate : Gate Nat} (here : p.tasks[j]? = some t₀)
    (own : j = i → ∀ rest, t = .ready rest ∨ t = .waiting rest → Replays id loan r rest) :
    Repeats id loan r i ⟨world, gate, p.tasks.set j t⟩ := by
  intro rest there
  by_cases eq : j = i
  · subst eq
    simp only [Pool.setTask_self t here, Option.some.injEq] at there
    exact own rfl rest there
  · simp only [List.getElem?_set_ne eq] at there
    exact rep rest there

/-- While the settled loan is found, a replay goes on as one, whatever else happens. -/
theorem turn {may : Pool.Move Desk → Prop} {x : List (Happening Desk)}
    (there : p.world.ledger.find? id = some loan) (rep : Repeats id loan r i p)
    (turn : Pool.Turn Desk.answer may p x p') : Repeats id loan r i p' := by
  cases turn with
  | change ok => exact rep
  | @ask j q next here =>
    refine rep.set here fun eq rest own => ?_
    subst eq
    rcases own with own | own <;> cases own
    exact ((rep _ (.inl here)).of_ask there).2
  | @queue j next here =>
    refine rep.set here fun eq rest own => ?_
    subst eq
    rcases own with own | own <;> cases own
    exact ((rep _ (.inl here)).of_ask there).2
  | @enter j rest waiting free here =>
    obtain ⟨t₀, begun⟩ : ∃ t₀, p.tasks[j]? = some t₀ := by
      rcases here with ⟨here, -⟩ | ⟨here, -⟩ <;> exact ⟨_, here⟩
    refine rep.set begun fun eq rest' own => ?_
    subst eq
    rcases own with own | own <;> cases own
    rcases here with ⟨here, -⟩ | ⟨here, -⟩
    · exact ((rep _ (.inl here)).of_ask there).2
    · exact rep _ (.inr here)
  | @leave j next here =>
    refine rep.set here fun eq rest own => ?_
    subst eq
    rcases own with own | own <;> cases own
    exact ((rep _ (.inl here)).of_ask there).2
  | @abandon j rest ok here => exact rep.set here fun _ rest own => by simp at own
  | @quit j t ok here => exact rep.set here fun _ rest own => by simp at own

/-- No step of a replay changes the desk. -/
theorem world_step (rep : Repeats id loan r i p) (there : p.world.ledger.find? id = some loan) :
    (p.step Desk.answer i).world = p.world := by
  cases here : p.tasks[i]? with
  | none => simp only [Pool.step, here]
  | some t =>
    cases t with
    | waiting rest => simp only [Pool.step, here]
    | dropped => simp only [Pool.step, here]
    | ready rest =>
      cases rest with
      | done a => simp only [Pool.step, here]
      | ask q next =>
        by_cases plain : q.isGate = false
        · rw [(Pool.step_ask Desk.answer here plain).1]
          exact ((rep _ (.inl here)).of_ask there).1
        · cases q with
          | enterGate =>
            simp only [Pool.step, here]
            split <;> rfl
          | leaveGate =>
            simp only [Pool.step, here]
            exact (Pool.leaveGate_of_idle (p := p.setTask i (.ready (next ())))
              (Pool.setTask_self _ here) (by simp)).2
          | _ => exact absurd rfl plain

/-- As long as a run goes on, the settled loan is found and a replay stays one. -/
theorem run {errands : List Errand} {h : List (Happening Desk)} (o : p.Orderly)
    (tracked : Tracked (newsOf recordingSink) (fun _ => True) errands h p)
    (numbered : p.world.ledger.Numbered) (there : p.world.ledger.find? id = some loan)
    (past : loan.isBorrowed = false) (rep : Repeats id loan r i p) {schedule : List (Pool.Move Desk)}
    (any : ∀ m ∈ schedule, Anyhow m) :
    (p.run Desk.answer schedule).world.ledger.find? id = some loan ∧
      Repeats id loan r i (p.run Desk.answer schedule) := by
  let Kept (h : List (Happening Desk)) (p : Pool Desk (Except Failure Served)) : Prop :=
    Tracked (newsOf recordingSink) (fun _ => True) errands h p ∧ p.world.ledger.Numbered ∧
      p.world.ledger.find? id = some loan ∧ Repeats id loan r i p
  have kept_by_turn : ∀ {h x : List (Happening Desk)} {p p' : Pool Desk (Except Failure Served)},
      p.Orderly → Kept h p → Pool.Turn Desk.answer Anyhow p x p' → Kept (h ++ x) p' := by
    intro h x p p' o ⟨tracked, numbered, there, rep⟩ turn
    obtain ⟨tracked', steps⟩ := tracked.turn lasting_true o turn
    obtain ⟨onward, numbered'⟩ := steps.onward numbered
    exact ⟨tracked', numbered', onward.find?_of_past there past, rep.turn there turn⟩
  have begun : Kept h p := ⟨tracked, numbered, there, rep⟩
  exact (Pool.run_keep kept_by_turn any o begun).2.2.2

end Repeats

section Run

variable {errands : List Errand} {d : Desk} {schedule earlier later : List (Pool.Move Desk)}

/-- Before it is admitted, a call to return a settled loan is a replay. -/
theorem repeats_of_fresh {h : List (Happening Desk)} {p : Pool Desk (Except Failure Served)}
    (obs : Observed errands d h p) {i : Nat} (fresh : Happening.admitted i ∉ h) {c : Command}
    {loan : Loan} (call : errands[i]? = some (.giveBack c)) (named : c.payload.loanId = some loan.id)
    (there : p.world.ledger.find? loan.id = some loan) (past : loan.isBorrowed = false) :
    Repeats loan.id loan (replayed c loan) i p := by
  have begins := replays_procedure recordingSink named past
  have listed : ∀ {r}, (errands.map (·.procedure recordingSink))[i]? = some r →
      Replays loan.id loan (replayed c loan) r := by
    intro r named
    rw [List.getElem?_map, call] at named
    cases named
    exact begins
  intro rest here
  rcases here with here | here
  · rcases obs.progress.fresh i _ fresh here with ⟨r, named, eq⟩ | ⟨rest', -, eq⟩ | eq
    · cases eq
      exact listed named
    · cases eq
    · cases eq
  · rcases obs.progress.fresh i _ fresh here with ⟨r, -, eq⟩ | ⟨rest', named, eq⟩ | eq
    · cases eq
    · cases eq
      exact ((listed named).of_ask there).2
    · cases eq

/-- Between two moments of a run, loans stay or are settled. -/
theorem onward_of_run (numbered : d.ledger.Numbered) (any : ∀ m ∈ earlier ++ later, Anyhow m) :
    ((pool recordingSink errands d).run Desk.answer earlier).world.ledger.Onward
      ((pool recordingSink errands d).run Desk.answer (earlier ++ later)).world.ledger := by
  have any_earlier : ∀ m ∈ earlier, Anyhow m := fun m mem => any m (List.mem_append_left _ mem)
  have any_later : ∀ m ∈ later, Anyhow m := fun m mem => any m (List.mem_append_right _ mem)
  obtain ⟨o, obs⟩ := Observed.run errands d any_earlier
  have standing := standing_of_run recordingSink_public errands numbered any_earlier
  have reached := (obs.tracked.run lasting_true o any_later).2
  rw [Pool.run_append]
  exact (reached.onward standing.numbered).1

/-- After a call to return a loan has succeeded the loan is settled. -/
theorem settled_of_success (numbered : d.ledger.Numbered) (any : ∀ m ∈ schedule, Anyhow m) {i : Nat}
    {c : Command} {id : LoanId} {o : Served} (call : errands[i]? = some (.giveBack c))
    (named : c.payload.loanId = some id)
    (ended : ((pool recordingSink errands d).run Desk.answer schedule).results[i]? =
      some (some (.ok o))) :
    ∃ loan, ((pool recordingSink errands d).run Desk.answer schedule).world.ledger.find? id =
      some loan ∧ loan.isBorrowed = false := by
  have here := Pool.results_eq_some_iff.mp ended
  have standing := standing_of_run recordingSink_public errands numbered any
  cases fate_of_run lasting_true errands d trivial any i with
  | outside _ _ fails =>
    obtain ⟨-, f, -, -, eq⟩ := fails _ here
    cases eq
  | inside mine _ =>
    obtain ⟨rest, there, inside⟩ := (Observed.run errands d any).1.inside i mine
    cases Option.some.inj (there.symm.trans here)
    cases inside
  | givenUp gone _ => cases Option.some.inj (gone.symm.trans here)
  | @departed e v deed earlier later listed parts leaves _ exit past =>
    have answered : .ok o = v.answer := by
      rcases past.tells with ⟨rest, there, telling⟩ | ⟨there, -⟩
      · cases Option.some.inj (there.symm.trans here)
        exact telling.of_done.1
      · cases Option.some.inj (there.symm.trans here)
    by_cases news : v.news = none
    · -- It found the loan settled, and so it stayed.
      cases exit with
      | @settledBefore c' id' loan r st called named' there owner was =>
        subst called
        cases Option.some.inj (call.symm.trans listed)
        cases Option.some.inj (named.symm.trans named')
        subst parts
        exact ⟨loan, (onward_of_run numbered any).find?_of_past there was, was⟩
      | refused | unreachable | stockUnwritten | raceLost | notRestocked => cases answered
      | lent | bookGone | fullyStocked | restocked => cases news
    · rcases exit.of_news news with ⟨loan, book, rfl, rfl⟩ | ⟨loan, rfl, was⟩
      · have made := congrArg Deed.made? (past.kept (exit.busy news))
        obtain ⟨-, c', borrows, -⟩ := standing.maker i loan made
        cases Option.some.inj (call.symm.trans borrows)
      · rw [← past.kept (exit.busy news)] at was
        obtain ⟨there, settled, c', returns, named'⟩ := standing.settler i loan was
        cases Option.some.inj (call.symm.trans returns)
        cases Option.some.inj (named.symm.trans named')
        exact ⟨loan, there, settled⟩

end Run

/-! ## At most once -/

/-- A call to return this loan changes what is on the shelf. -/
def PutsBack (errands : List Errand) (id : LoanId) : Happening Desk → Prop
  | .asked i q found =>
    (∃ c, errands[i]? = some (.giveBack c) ∧ c.payload.loanId = some id) ∧
      (Desk.answer q found).2.shelf ≠ found.shelf
  | .admitted _ => False

/-- The copy of the loan was put back at most once, and if it was, a call has settled the loan and
written the stock. -/
structure OncePutBack (errands : List Errand) (id : LoanId) (h : List (Happening Desk)) : Prop where
  once : h.Pairwise fun x y => ¬(PutsBack errands id x ∧ PutsBack errands id y)
  deed : ∀ x ∈ h, PutsBack errands id x →
    ∃ i loan book, Deed.inHistory h i = .restocked loan book ∧ loan.id = id

theorem Deed.after_restocked (loan : Loan) (book : Book) (q : Request) (d : Desk) :
    (Deed.restocked loan book).after q d = .restocked loan book := by
  cases q <;> rfl

/-- Only a call that has settled its loan puts something back on the shelf. -/
theorem Advance.restocks {errands : List Errand} {deeds : Nat → Deed} {l : Ledger}
    (standing : Standing errands deeds l) {i : Nat} {c : Command} {deed' : Deed} {st st' : Stores}
    (call : errands[i]? = some (.giveBack c))
    (a : Advance (.giveBack c) (deeds i) st deed' st') (moved : st'.shelf ≠ st.shelf) :
    ∃ loan book, deeds i = .settled loan ∧ deed' = .restocked loan book := by
  generalize deed_eq : deeds i = deed at a
  cases a with
  | @take loan found st there copies =>
    -- A loan that was made belongs to a call to borrow.
    have made := congrArg Deed.made? deed_eq
    obtain ⟨-, c', borrows, -⟩ := standing.maker i loan made
    cases Option.some.inj (call.symm.trans borrows)
  | @restock loan found st there room => exact ⟨loan, _, rfl, rfl⟩
  | _ => exact absurd rfl moved

namespace OncePutBack

variable {errands : List Errand} {id : LoanId} {h : List (Happening Desk)}

/-- Something else happens than that the copy is put back. -/
theorem snoc (p : OncePutBack errands id h) {x : Happening Desk} (idle : ¬PutsBack errands id x)
    (kept : ∀ i loan book, Deed.inHistory h i = .restocked loan book →
      Deed.inHistory (h ++ [x]) i = .restocked loan book) : OncePutBack errands id (h ++ [x]) where
  once := by
    refine List.pairwise_append.mpr ⟨p.once, List.pairwise_singleton .., ?_⟩
    rintro y - z mem ⟨-, again⟩
    rw [List.mem_singleton.mp mem] at again
    exact idle again
  deed := by
    intro y mem back
    rcases List.mem_append.mp mem with old | new
    · obtain ⟨i, loan, book, did, own⟩ := p.deed y old back
      exact ⟨i, loan, book, kept i loan book did, own⟩
    · rw [List.mem_singleton.mp new] at back
      exact absurd back idle

theorem turn {p p' : Pool Desk (Except Failure Served)} {x : List (Happening Desk)}
    (tracked : Tracked (newsOf recordingSink) (fun _ => True) errands h p)
    (standing : Standing errands (Deed.inHistory h) p.world.ledger) (once : OncePutBack errands id h)
    (turn : Pool.Turn Desk.answer Anyhow p x p') : OncePutBack errands id (h ++ x) := by
  cases turn with
  | @ask i q next here plain mine =>
    have kept : ∀ j loan book, Deed.inHistory h j = .restocked loan book →
        Deed.inHistory (h ++ [.asked i q p.world]) j = .restocked loan book := by
      intro j loan book did
      rw [Deed.inHistory_asked]
      by_cases eq : j = i
      · subst eq
        rw [Function.update_self, did, Deed.after_restocked]
      · rw [Function.update_of_ne eq, did]
    by_cases back : PutsBack errands id (.asked i q p.world)
    · obtain ⟨⟨c, call, named⟩, moved⟩ := back
      -- Outside the gate nothing changes the shelf, so it is the holder, and it restocks.
      have held : p.gate.holder = some i := by
        refine mine.resolve_right fun free => moved ?_
        exact congrArg Stores.shelf (Desk.stores_answer free p.world)
      obtain ⟨e, listed, -, advances⟩ := (tracked.holder i _ held here).of_ask plain
      cases Option.some.inj (call.symm.trans listed)
      obtain ⟨loan, book, was, now⟩ :=
        (advances p.world rfl trivial).1.restocks standing call moved
      have settled := congrArg Deed.settled? was
      obtain ⟨-, -, c', returns, own⟩ := standing.settler i loan settled
      cases Option.some.inj (call.symm.trans returns)
      have own_id : loan.id = id := Option.some.inj (own.symm.trans named)
      -- An earlier one would have settled the same loan, so it would be the same call.
      have first : ∀ y ∈ h, ¬PutsBack errands id y := by
        intro y mem earlier
        obtain ⟨j, loan', book', did, own'⟩ := once.deed y mem earlier
        have same : j = i := standing.oneSettler j i loan' loan (congrArg Deed.settled? did) settled
          (own'.trans own_id.symm)
        rw [same, was] at did
        cases did
      constructor
      · refine List.pairwise_append.mpr ⟨once.once, List.pairwise_singleton .., ?_⟩
        rintro y mem z - ⟨earlier, -⟩
        exact first y mem earlier
      · intro y mem _
        refine ⟨i, loan, book, ?_, own_id⟩
        rw [Deed.inHistory_asked, Function.update_self]
        exact now
    · exact once.snoc back kept
  | @enter i rest waiting free here =>
    refine once.snoc (fun back => back) fun j loan book did => ?_
    rw [Deed.inHistory_admitted, did]
  | _ =>
    rw [List.append_nil]
    exact once

end OncePutBack

theorem oncePutBack_of_run (errands : List Errand) {d : Desk} (numbered : d.ledger.Numbered)
    (id : LoanId) {schedule : List (Pool.Move Desk)} (any : ∀ m ∈ schedule, Anyhow m) :
    OncePutBack errands id ((pool recordingSink errands d).history Desk.answer schedule) := by
  let Kept (h : List (Happening Desk)) (p : Pool Desk (Except Failure Served)) : Prop :=
    Tracked (newsOf recordingSink) (fun _ => True) errands h p ∧
      Standing errands (Deed.inHistory h) p.world.ledger ∧ OncePutBack errands id h
  have kept_by_turn : ∀ {h x : List (Happening Desk)} {p p' : Pool Desk (Except Failure Served)},
      p.Orderly → Kept h p → Pool.Turn Desk.answer Anyhow p x p' → Kept (h ++ x) p' := by
    intro h x p p' o ⟨tracked, standing, once⟩ turn
    obtain ⟨tracked', steps⟩ := tracked.turn lasting_true o turn
    have standing' := steps.keep (P := fun s => Standing errands s.deeds s.stores.ledger)
      Standing.step standing
    exact ⟨tracked', standing', once.turn tracked standing turn⟩
  have begun : Kept [] (pool recordingSink errands d) :=
    ⟨.start trivial (heralded_errands _ _ _), .start numbered, ⟨.nil, fun _ mem => by cases mem⟩⟩
  exact (Pool.run_keep kept_by_turn any (pool_orderly recordingSink_public errands d) begun).2.2.2

/-- Who tells that a loan was returned has settled it. -/
theorem settled_of_told {errands : List Errand} {d : Desk} {schedule : List (Pool.Move Desk)}
    (any : ∀ m ∈ schedule, Anyhow m) {i : Nat} {ev : Event} {id : LoanId}
    (told : ev ∈ toldBy ((pool recordingSink errands d).history Desk.answer schedule) i)
    (return_ : Event.tellsReturn id ev = true) :
    ∃ loan, (Deed.inHistory ((pool recordingSink errands d).history Desk.answer schedule) i).settled? =
      some loan ∧ loan.id = id := by
  cases fate_of_run lasting_true errands d trivial any i with
  | outside _ silent | inside _ silent | givenUp _ silent =>
    rw [silent] at told
    exact absurd told List.not_mem_nil
  | @departed e v deed earlier later listed parts leaves _ exit past =>
    rcases past.told with none_ | ⟨news, now, eq, one⟩
    · rw [none_] at told
      exact absurd told List.not_mem_nil
    · rw [one, List.mem_singleton] at told
      have some_news : v.news ≠ none := by simp [eq]
      rcases exit.of_news some_news with ⟨loan, book, rfl, rfl⟩ | ⟨loan, rfl, was⟩
      · -- What a call to borrow tells is of another kind.
        cases eq
        subst told
        simp [Event.tellsReturn, Event.requested] at return_
      · cases eq
        subst told
        rw [← past.kept (exit.busy some_news)] at was
        exact ⟨loan, was, of_decide_eq_true (Bool.and_eq_true_iff.mp return_).2⟩

/-- If all that have a property belong to one, and nobody has two, there is at most one. -/
theorem countP_snd_le_one {α β : Type} {l : List (α × β)} {P : β → Bool} (apart : (l.map Prod.fst).Nodup)
    (same : ∀ a ∈ l, ∀ b ∈ l, P a.2 = true → P b.2 = true → a.1 = b.1) :
    (l.map Prod.snd).countP P ≤ 1 := by
  rw [List.countP_map, List.countP_eq_length_filter]
  have kept : ((l.filter (P ∘ Prod.snd)).map Prod.fst).Nodup :=
    apart.sublist (List.filter_sublist.map _)
  cases chosen : l.filter (P ∘ Prod.snd) with
  | nil => simp
  | cons a rest =>
    cases rest with
    | nil => simp
    | cons b rest =>
      rw [chosen] at kept
      have mem_a : a ∈ l.filter (P ∘ Prod.snd) := by simp [chosen]
      have mem_b : b ∈ l.filter (P ∘ Prod.snd) := by simp [chosen]
      obtain ⟨in_a, has_a⟩ := List.mem_filter.mp mem_a
      obtain ⟨in_b, has_b⟩ := List.mem_filter.mp mem_b
      have eq := same a in_a b in_b has_a has_b
      simp [eq] at kept

/-- The return of a loan is told at most once in a run. -/
theorem returns_told_once (errands : List Errand) {d : Desk} (numbered : d.ledger.Numbered)
    {schedule : List (Pool.Move Desk)} (any : ∀ m ∈ schedule, Anyhow m) (id : LoanId) :
    ((recorded ((pool recordingSink errands d).history Desk.answer schedule)).map Prod.snd).countP
      (Event.tellsReturn id) ≤ 1 := by
  have standing := standing_of_run recordingSink_public errands numbered any
  refine countP_snd_le_one (nodup_tellers (told_once_of_run any)) fun a mem_a b mem_b told_a told_b => ?_
  obtain ⟨loan, settled, own⟩ := settled_of_told any (mem_recorded_iff.mp mem_a) told_a
  obtain ⟨loan', settled', own'⟩ := settled_of_told any (mem_recorded_iff.mp mem_b) told_b
  exact standing.oneSettler _ _ loan loan' settled settled' (own.trans own'.symm)

/-- Once a call to return a loan has succeeded, or the loan is in any state but borrowed, it stays as it
is, whatever the schedule, the faults and the calls that are given up; every call to return it that
comes to the gate after that changes nothing by any of its steps, and answers that the loan was settled
before, or that it is somebody else's. So over a whole run the copy of a loan is put back at most once
and its return is told at most once. -/
theorem replayed_of_run (errands : List Errand) {d : Desk} (numbered : d.ledger.Numbered)
    {earlier later : List (Pool.Move Desk)}
    (any : ∀ m ∈ earlier ++ later, Permitted (fun _ => True) True m) (id : LoanId) :
    let start := pool recordingSink errands d
    let p := start.run Desk.answer earlier
    let p' := p.run Desk.answer later
    let h := start.history Desk.answer (earlier ++ later)
    ((∃ (k : Nat) (c : Command) (o : Served), errands[k]? = some (.giveBack c) ∧
          c.payload.loanId = some id ∧ p.results[k]? = some (some (.ok o))) ∨
        (∃ loan, p.world.ledger.find? id = some loan ∧ loan.isBorrowed = false) →
      ∃ loan, loan.isBorrowed = false ∧ p.world.ledger.find? id = some loan ∧
        p'.world.ledger.find? id = some loan ∧
        ∀ (i : Nat) (c : Command), errands[i]? = some (.giveBack c) → c.payload.loanId = some id →
          i ∉ Pool.admissions (start.history Desk.answer earlier) →
            (∀ before after, later = before ++ .step i :: after →
              ((p.run Desk.answer before).step Desk.answer i).world =
                (p.run Desk.answer before).world) ∧
            (∀ r, p'.results[i]? = some (some r) → r = replayed c loan) ∧
            ((Errand.giveBack c).procedure recordingSink).run Desk.answer p'.world =
              (replayed c loan, p'.world)) ∧
      (h.Pairwise fun x y => ¬(PutsBack errands id x ∧ PutsBack errands id y)) ∧
      ∃ news, p'.world.events = d.events ++ news ∧ news.countP (Event.tellsReturn id) ≤ 1 := by
  intro start p p' h
  have any_earlier : ∀ m ∈ earlier, Anyhow m := fun m mem => any m (List.mem_append_left _ mem)
  have any_later : ∀ m ∈ later, Anyhow m := fun m mem => any m (List.mem_append_right _ mem)
  obtain ⟨o, obs⟩ := Observed.run errands d any_earlier
  have standing := standing_of_run recordingSink_public errands numbered any_earlier
  have whole : p' = start.run Desk.answer (earlier ++ later) := (Pool.run_append ..).symm
  refine ⟨fun ended => ?_, (oncePutBack_of_run errands numbered id any).once, _, ?_,
    returns_told_once errands numbered any id⟩
  · obtain ⟨loan, there, past⟩ : ∃ loan, p.world.ledger.find? id = some loan ∧
        loan.isBorrowed = false := by
      rcases ended with ⟨k, c, o, call, named, ended⟩ | settled
      · exact settled_of_success numbered any_earlier call named ended
      · exact settled
    obtain rfl : loan.id = id := (Ledger.find?_eq_some_iff.mp there).2
    have still : p'.world.ledger.find? loan.id = some loan := by
      rw [whole]
      exact (onward_of_run numbered any).find?_of_past there past
    refine ⟨loan, past, there, still, fun i c call named away => ?_⟩
    have fresh := fun mem => away (Pool.mem_admissions_iff.mpr mem)
    have rep := repeats_of_fresh obs fresh call named there past
    refine ⟨?_, fun r ended => ?_, ?_⟩
    · rintro before after rfl
      obtain ⟨found, rep'⟩ := rep.run o obs.tracked standing.numbered there past fun m mem =>
        any_later m (List.mem_append_left _ mem)
      exact rep'.world_step found
    · have rep' := (rep.run o obs.tracked standing.numbered there past any_later).2
      cases rep' _ (.inl (Pool.results_eq_some_iff.mp ended))
      rfl
    · exact (replays_procedure recordingSink named past).run still
  · rw [whole]
    exact (Observed.run errands d any).2.record

/-- The copy is lent and comes back, and is returned once more. -/
def returnedTwice : Pool Desk (Except Failure Served) :=
  pool recordingSink [borrowCopy, returnCopy, returnCopy] oneCopy

/-- The first two calls are carried out, and then the third. -/
def firstTwo : List Nat := List.replicate 10 0 ++ List.replicate 10 1

def third : List Nat := List.replicate 10 2

/-- The second return finds nothing left to do. -/
theorem replayed_of_run_oneCopy :
    let p := returnedTwice.run Desk.answer (firstTwo.map .step)
    let p' := p.run Desk.answer (third.map .step)
    ∃ loan, p.world.ledger.find? ⟨1⟩ = some loan ∧ p'.world.ledger.find? ⟨1⟩ = some loan ∧
      p'.results[2]? = some (some (.ok (.givenBack (.alreadySettled loan)))) := by
  have any : ∀ m ∈ firstTwo.map Pool.Move.step ++ third.map Pool.Move.step,
      Permitted (fun _ => True) True m := by
    rw [← List.map_append]
    exact permitted_steps _ _ _
  -- By evaluation, the loan is settled at first, and the second return is over in the end.
  obtain ⟨loan, there, past⟩ := (Option.any_eq_true (fun loan => loan.isBorrowed == false) _).mp
    (show ((returnedTwice.run Desk.answer (firstTwo.map .step)).world.ledger.find? ⟨1⟩).any _ = true
      by decide +kernel)
  obtain ⟨r?, ended, finished⟩ := (Option.any_eq_true Option.isSome _).mp
    (show (((returnedTwice.run Desk.answer (firstTwo.map .step)).run Desk.answer
      (third.map .step)).results[2]?).any _ = true by decide +kernel)
  obtain ⟨r, rfl⟩ := Option.isSome_iff_exists.mp finished
  obtain ⟨loan', -, there', still, replays⟩ := (replayed_of_run [borrowCopy, returnCopy, returnCopy]
    (d := oneCopy) Ledger.numbered_empty any ⟨1⟩).1 (.inr ⟨loan, there, beq_iff_eq.mp past⟩)
  have answered := (replays 2 _ rfl rfl (by decide +kernel)).2.1 r ended
  subst answered
  exact ⟨loan', there', still, ended⟩

end Lending

end Circulation
