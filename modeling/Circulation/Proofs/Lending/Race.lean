/- # Circulation.Proofs.Lending.Race -- many calls for the last copies of one book

Calls to borrow come for one book, each for a user who does not have it, several perhaps for the same
user. When no call can go on any more each has come to its end, and without faults it has lent the book
or was refused, for a reason that was true of the stores when it left the gate (`outcome_of_run`). A
call that was refused for want of a copy, or because its user has the book, would be refused at any
later time as well: no copy comes back, and a loan that was made stands (`Race.of_refused`). So at the
end either no copy is left or every user has one (`race_of_run`).
-/
import Circulation.Proofs.Lending.Advances
import Circulation.Proofs.Lending.Contest
import Circulation.Proofs.Lending.Report
import Circulation.Proofs.Lending.Stock
import Circulation.Proofs.Pool.Rest

namespace Circulation

open Time (Instant)

namespace Lending

/-! ## What becomes of one call -/

theorem lasting_none : Lasting (· = Faults.none) := by
  rintro s rfl
  rfl

section Outcome

variable {errands : List Errand} {d : Desk}

/-- The shifts of a run go on from any moment of it. -/
theorem reaches_append {may : Faults → Prop} (lasting : Lasting may) {drops : Prop}
    (ok : may d.faults) {earlier later : List (Pool.Move Desk)}
    (permitted : ∀ m ∈ earlier ++ later, Permitted may drops m) :
    Shift.Reaches may drops errands
      (Shift.of ((pool recordingSink errands d).history Desk.answer earlier)
        ((pool recordingSink errands d).run Desk.answer earlier))
      (Shift.of ((pool recordingSink errands d).history Desk.answer (earlier ++ later))
        ((pool recordingSink errands d).run Desk.answer (earlier ++ later))) := by
  have orderly := pool_orderly recordingSink_public errands d
  have begun := Tracked.start ok (heralded_errands recordingSink may errands)
  have tracked := (begun.run lasting orderly
    fun m mem => permitted m (List.mem_append_left _ mem)).1
  rw [List.nil_append] at tracked
  rw [Pool.run_append, Pool.history_append]
  exact (tracked.run lasting (orderly.run earlier)
    fun m mem => permitted m (List.mem_append_right _ mem)).2

/-- What becomes of a call to borrow without faults: it lends a book and tells so, or it is refused and
tells nothing, for a reason that was true of the stores at some moment of the run. -/
inductive Outcome (errands : List Errand) (d : Desk) (schedule : List (Pool.Move Desk)) (i : Nat)
    (c : Command) : Except Failure Served → Prop
  | lent {loan : Loan} {taken : Book} (now : Instant)
      (deed : Deed.inHistory ((pool recordingSink errands d).history Desk.answer schedule) i =
        .lent loan taken)
      (told : toldBy ((pool recordingSink errands d).history Desk.answer schedule) i =
        [.requested loan taken.availableCopies now]) : Outcome errands d schedule i c (.ok (.lent loan))
  | refused {f : Failure} {s : Shift} {read : Option Instant}
      (idle : ∃ r, Deed.inHistory ((pool recordingSink errands d).history Desk.answer schedule) i =
        .nothing r)
      (silent : toldBy ((pool recordingSink errands d).history Desk.answer schedule) i = [])
      (reached : Shift.Reaches (· = Faults.none) False errands (Shift.start d.stores) s)
      (onward : Shift.Reaches (· = Faults.none) False errands s
        (Shift.of ((pool recordingSink errands d).history Desk.answer schedule)
          ((pool recordingSink errands d).run Desk.answer schedule)))
      (refusal : Refusal (.borrow c) s.stores read f)
      (dated : ∀ now, read = some now →
        Dated ((pool recordingSink errands d).history Desk.answer schedule) i now) :
      Outcome errands d schedule i c (.error f)

theorem outcome_of_run (calm : d.faults = Faults.none) (numbered : d.ledger.Numbered)
    {schedule : List (Pool.Move Desk)}
    (permitted : ∀ m ∈ schedule, Permitted (· = Faults.none) False m) {i : Nat} {c : Command}
    (call : errands[i]? = some (.borrow c)) {user : UserId} {book : BookId}
    (named : c.payload.userId = some user) (wanted : c.payload.bookId = some book)
    {r : Except Failure Served}
    (ended : ((pool recordingSink errands d).run Desk.answer schedule).results[i]? =
      some (some r)) : Outcome errands d schedule i c r := by
  have here := Pool.results_eq_some_iff.mp ended
  have any : ∀ m ∈ schedule, Anyhow m := fun m mem => (permitted m mem).anyhow
  cases fate_of_run lasting_none errands d calm permitted i with
  | outside fresh silent fails =>
    -- The command names its user and its book, so the call does not end before the gate.
    obtain ⟨e, f, listed, lacks, -⟩ := fails r here
    cases Option.some.inj (call.symm.trans listed)
    simp [Errand.section?, named, wanted] at lacks
  | inside mine silent =>
    obtain ⟨rest, there, inside⟩ := (Observed.run errands d any).1.inside i mine
    cases Option.some.inj (there.symm.trans here)
    cases inside
  | givenUp gone silent => cases Option.some.inj (gone.symm.trans here)
  | @departed e v deed earlier later listed parts leaves was exit past =>
    cases Option.some.inj (call.symm.trans listed)
    obtain ⟨answered, news⟩ : r = v.answer ∧
        (toldBy ((pool recordingSink errands d).history Desk.answer schedule) i ≠ [] ↔
          v.news ≠ none) := by
      rcases past.tells with ⟨rest, there, telling⟩ | ⟨there, -⟩
      · cases Option.some.inj (there.symm.trans here)
        exact telling.of_done
      · cases Option.some.inj (there.symm.trans here)
    subst parts
    have permitted_earlier : ∀ m ∈ earlier, Permitted (· = Faults.none) False m := fun m mem =>
      permitted m (List.mem_append_left _ mem)
    -- A call to borrow settles nothing.
    have unsettled : deed.settled? = none := by
      have standing := standing_of_run recordingSink_public errands numbered
        fun m mem => (permitted_earlier m mem).anyhow
      cases settled : deed.settled? with
      | none => rfl
      | some loan =>
        rw [← was] at settled
        obtain ⟨-, -, c', returns, -⟩ := standing.settler i loan settled
        cases Option.some.inj (call.symm.trans returns)
    cases exit with
    | @refused read st f refusal =>
      subst answered
      refine .refused (past.idle read rfl) (not_ne_iff.mp fun told => news.mp told rfl)
        (reaches_run recordingSink_public lasting_none errands calm permitted_earlier)
        (reaches_append lasting_none calm permitted) refusal ?_
      rintro now rfl
      rw [Pool.history_append]
      exact (dated_of_read was).append _
    | lent =>
      subst answered
      have kept := past.kept fun r => by simp
      rcases past.told with none_ | ⟨event, now, eq, one⟩
      · exact absurd none_ (news.mpr (by simp [Verdict.news]))
      · cases eq
        exact .lent now kept one
    | unreachable call transient faulty =>
      obtain ⟨s, rfl, flag | flag⟩ := faulty <;> cases flag
    | stockUnwritten faulty =>
      obtain ⟨s, rfl, flag⟩ := faulty
      cases flag
    | settledBefore call => cases call
    | raceLost | notRestocked | bookGone | fullyStocked | restocked => cases unsettled

end Outcome

/-! ## The race -/

/-- The loan that an answer tells of. -/
def lentLoan? : Except Failure Served → Option Loan
  | .ok (.lent loan) => some loan
  | _ => none

/-- The loans that the calls of a pool have answered. -/
def lentIn (p : Pool Desk (Except Failure Served)) : List Loan :=
  p.results.filterMap fun r => r.bind lentLoan?

/-- Commands to borrow, carried out side by side. -/
abbrev raceOf (commands : List Command) (d : Desk) : Pool Desk (Except Failure Served) :=
  pool recordingSink (commands.map .borrow) d

/-- The pool at the end. -/
abbrev endOf (commands : List Command) (d : Desk) (schedule : List (Pool.Move Desk)) :
    Pool Desk (Except Failure Served) :=
  (raceOf commands d).run Desk.answer schedule

/-- What the calls have done by the end. -/
abbrev deedsIn (commands : List Command) (d : Desk) (schedule : List (Pool.Move Desk)) : Nat → Deed :=
  Deed.inHistory ((raceOf commands d).history Desk.answer schedule)

/-- A race for the copies of a book, without faults, until no call can go on. -/
structure Race (commands : List Command) (d : Desk) (book : BookId) (copies : Int)
    (schedule : List (Pool.Move Desk)) : Prop where
  calm : d.faults = Faults.none
  permitted : ∀ m ∈ schedule, Permitted (· = Faults.none) False m
  numbered : d.ledger.Numbered
  registered : ∃ b, d.shelf.find? book = some b ∧ b.availableCopies = copies
  nonneg : 0 ≤ copies
  /-- Each command is for this book and for a user who does not have it. -/
  racers : ∀ c ∈ commands, c.payload.bookId = some book ∧
    ∃ user, c.payload.userId = some user ∧ d.ledger.hasActive user book = false
  rested : (endOf commands d schedule).AtRest
  /-- From the moment when its call looks at the clock, no loan is too long for the calendar. -/
  representable : ∀ (i : Nat) (c : Command) (user : UserId) (now : Instant), commands[i]? = some c →
    c.payload.userId = some user → Dated ((raceOf commands d).history Desk.answer schedule) i now →
      ∃ draft, LoanDraft.open? user book c.payload.days now = .ok draft

section Race

variable {commands : List Command} {d : Desk} {book : BookId} {copies : Int}
  {schedule : List (Pool.Move Desk)}

theorem borrow_at_iff {i : Nat} {c : Command} :
    (commands.map Errand.borrow)[i]? = some (.borrow c) ↔ commands[i]? = some c := by
  rw [List.getElem?_map, Option.map_eq_some_iff]
  constructor
  · rintro ⟨c', here, eq⟩
    cases eq
    exact here
  · exact fun here => ⟨c, here, rfl⟩

theorem allBorrow (commands : List Command) : AllBorrow (commands.map .borrow) := by
  intro i e here
  rw [List.getElem?_map] at here
  obtain ⟨c, -, rfl⟩ := Option.map_eq_some_iff.mp here
  exact ⟨c, rfl⟩

namespace Race

theorem reached (race : Race commands d book copies schedule) :
    Shift.Reaches (· = Faults.none) False (commands.map .borrow) (Shift.start d.stores)
      (Shift.of ((raceOf commands d).history Desk.answer schedule) (endOf commands d schedule)) :=
  reaches_run recordingSink_public lasting_none _ race.calm race.permitted

theorem any (race : Race commands d book copies schedule) : ∀ m ∈ schedule, Anyhow m :=
  fun m mem => (race.permitted m mem).anyhow

theorem contest (race : Race commands d book copies schedule) {s : Shift}
    (reached : Shift.Reaches (· = Faults.none) False (commands.map .borrow)
      (Shift.start d.stores) s) : Contest d.ledger book copies s := by
  obtain ⟨b, there, rfl⟩ := race.registered
  have begun : Contest d.ledger book b.availableCopies (Shift.start d.stores) :=
    @Contest.start book d.stores race.numbered b there race.nonneg
  exact reached.keep (Contest.step (allBorrow commands)) begun

theorem standing (race : Race commands d book copies schedule) :
    Standing (commands.map .borrow) (deedsIn commands d schedule)
      (endOf commands d schedule).world.ledger :=
  standing_of_run recordingSink_public _ race.numbered race.any

/-- Each call comes to its end. -/
theorem finished (race : Race commands d book copies schedule) {i : Nat} {c : Command}
    (at_ : commands[i]? = some c) :
    ∃ r, (endOf commands d schedule).results[i]? = some (some r) := by
  obtain ⟨lt, -⟩ := List.getElem?_eq_some_iff.mp at_
  have kept : ∀ m ∈ schedule, m ≠ .drop i := by
    rintro m mem rfl
    exact race.permitted (.drop i) mem
  refine (pool_orderly recordingSink_public (commands.map .borrow) d).result_of_atRest kept
    race.rested ?_
  rw [List.length_map, List.length_map]
  exact lt

theorem outcome (race : Race commands d book copies schedule) {i : Nat} {c : Command}
    (at_ : commands[i]? = some c) :
    ∃ r, (endOf commands d schedule).results[i]? = some (some r) ∧
      Outcome (commands.map .borrow) d schedule i c r := by
  obtain ⟨r, ended⟩ := race.finished at_
  obtain ⟨wanted, user, named, -⟩ := race.racers c (List.mem_of_getElem? at_)
  exact ⟨r, ended, outcome_of_run race.calm race.numbered race.permitted (borrow_at_iff.mpr at_) named
    wanted ended⟩

/-- A loan that was made is for the user of its command, for the book, and new. -/
theorem of_made (race : Race commands d book copies schedule) {i : Nat} {loan : Loan}
    (made : (deedsIn commands d schedule i).made? = some loan) :
    (∃ c, commands[i]? = some c ∧ c.payload.userId = some loan.userId) ∧ loan.bookId = book ∧
      loan.isBorrowed = true ∧ loan ∉ d.ledger.loans.toList := by
  obtain ⟨borrowed, c, call, named, wanted⟩ := race.standing.maker i loan made
  have at_ := borrow_at_iff.mp call
  obtain ⟨wanted', user, named', free⟩ := race.racers c (List.mem_of_getElem? at_)
  cases Option.some.inj (named.symm.trans named')
  have subject : loan.bookId = book := Option.some.inj (wanted.symm.trans wanted')
  refine ⟨⟨c, at_, named⟩, subject, borrowed, fun mem => ?_⟩
  rw [Ledger.not_borrowed_of_hasActive free mem rfl subject] at borrowed
  cases borrowed

/-- No two calls make a loan for the same user. -/
theorem one_per_user (race : Race commands d book copies schedule) {i j : Nat} {a b : Loan}
    (made_a : (deedsIn commands d schedule i).made? = some a)
    (made_b : (deedsIn commands d schedule j).made? = some b) (same : a.userId = b.userId) : i = j := by
  have standing := race.standing
  have subject : a.bookId = b.bookId := (race.of_made made_a).2.1.trans (race.of_made made_b).2.1.symm
  -- For a second loan the first would have to be settled, and nothing is.
  have unsettled : ∀ k loan, (deedsIn commands d schedule k).settled? ≠ some loan := by
    intro k loan settled
    have none_ : (deedsIn commands d schedule k).settled? = none := (race.contest race.reached).unsettled k
    cases none_.symm.trans settled
  rcases Int.lt_trichotomy a.id.value b.id.value with lt | eq | gt
  · obtain ⟨k, at_, settled⟩ := standing.succession i j a b made_a made_b same subject lt
    exact absurd settled (unsettled k _)
  · refine standing.oneMaker i j a b made_a made_b ?_
    cases a_id : a.id
    cases b_id : b.id
    simpa only [a_id, b_id, LoanId.mk.injEq] using eq
  · obtain ⟨k, at_, settled⟩ := standing.succession j i b a made_b made_a same.symm subject.symm gt
    exact absurd settled (unsettled k _)

/-- The loans that were answered are those that were made. -/
theorem lentIn_eq (race : Race commands d book copies schedule) :
    lentIn (endOf commands d schedule) =
      (List.range commands.length).filterMap fun i => (deedsIn commands d schedule i).made? := by
  have size : (endOf commands d schedule).results.length = commands.length := by
    rw [Pool.results, List.length_map, Pool.length_run]
    simp [raceOf, pool, Pool.start]
  have answered : (endOf commands d schedule).results.map (fun r => r.bind lentLoan?) =
        (List.range commands.length).map fun i => (deedsIn commands d schedule i).made? := by
    refine List.ext_getElem? fun i => ?_
    rw [List.getElem?_map, List.getElem?_map]
    by_cases lt : i < commands.length
    · obtain ⟨r, ended, outcome⟩ := race.outcome (List.getElem?_eq_getElem lt)
      rw [ended, List.getElem?_range lt]
      cases outcome with
      | lent now deed told =>
        simp only [Option.map_some, deedsIn, deed]
        rfl
      | refused idle =>
        obtain ⟨read, idle⟩ := idle
        simp only [Option.map_some, deedsIn, idle]
        rfl
    · rw [List.getElem?_eq_none (by omega), List.getElem?_eq_none (by simpa using lt)]
      rfl
  calc lentIn (endOf commands d schedule)
    _ = ((endOf commands d schedule).results.map fun r => r.bind lentLoan?).filterMap id := by
        rw [List.filterMap_map]
        rfl
    _ = _ := by
        rw [answered, List.filterMap_map]
        rfl

theorem mem_lentIn (race : Race commands d book copies schedule) {loan : Loan} :
    loan ∈ lentIn (endOf commands d schedule) ↔
      ∃ i, (deedsIn commands d schedule i).made? = some loan := by
  rw [race.lentIn_eq, List.mem_filterMap]
  constructor
  · rintro ⟨i, -, made⟩
    exact ⟨i, made⟩
  · rintro ⟨i, made⟩
    obtain ⟨⟨c, at_, -⟩, -⟩ := race.of_made made
    obtain ⟨lt, -⟩ := List.getElem?_eq_some_iff.mp at_
    exact ⟨i, List.mem_range.mpr lt, made⟩

theorem nodup_users (race : Race commands d book copies schedule) :
    ((lentIn (endOf commands d schedule)).map (·.userId)).Nodup := by
  rw [race.lentIn_eq, List.map_filterMap]
  refine List.Nodup.filterMap (fun i j user mem_i mem_j => ?_) List.nodup_range
  obtain ⟨a, made_a, rfl⟩ := Option.map_eq_some_iff.mp mem_i
  obtain ⟨b, made_b, same⟩ := Option.map_eq_some_iff.mp mem_j
  exact race.one_per_user made_a made_b same.symm

/-- The ledger has the loans that it had, and those that were answered. -/
theorem ledger_perm (race : Race commands d book copies schedule) :
    (endOf commands d schedule).world.ledger.loans.toList.Perm
      (d.ledger.loans.toList ++ lentIn (endOf commands d schedule)) := by
  have nodup : ∀ l : Ledger, l.loans.toList.Nodup := fun l =>
    l.loans.ascending.imp fun lt eq => absurd (congrArg (·.id.value) eq) (Int.ne_of_lt lt)
  have apart : (d.ledger.loans.toList ++ lentIn (endOf commands d schedule)).Nodup := by
    refine List.nodup_append.mpr ⟨nodup _, .of_map _ race.nodup_users, ?_⟩
    rintro loan old _ lent rfl
    obtain ⟨i, made⟩ := race.mem_lentIn.mp lent
    exact (race.of_made made).2.2.2 old
  refine (List.perm_ext_iff_of_nodup (nodup _) apart).mpr fun loan => ?_
  rw [List.mem_append, race.mem_lentIn]
  exact (race.contest race.reached).loans loan

/-- What is left on the shelf is what was there less what was lent. -/
theorem left_on_shelf (race : Race commands d book copies schedule) :
    ∃ b, (endOf commands d schedule).world.shelf.find? book = some b ∧
      0 ≤ b.availableCopies ∧
      b.availableCopies = copies - (lentIn (endOf commands d schedule)).length := by
  obtain ⟨b, there, nonneg, -⟩ := (race.contest race.reached).shelf
  refine ⟨b, there, nonneg, ?_⟩
  obtain ⟨b₀, registered, rfl⟩ := race.registered
  have begun : Shift.Accounted (commands.map .borrow) book (b₀.availableCopies + d.ledger.out book)
      (Shift.start d.stores) := .start race.numbered (Stores.stock?_of_find? registered)
  have balance := (race.reached.keep Shift.Accounted.step begun).balance
  -- Every call is over, and so none owes anything.
  have settled : (Shift.of ((raceOf commands d).history Desk.answer schedule)
      (endOf commands d schedule)).owed (commands.map .borrow) book = 0 := by
    refine Finset.sum_eq_zero fun i _ => ?_
    have lt : (i : Nat) < commands.length := by simpa using i.isLt
    obtain ⟨r, -, outcome⟩ := race.outcome (List.getElem?_eq_getElem lt)
    cases outcome with
    | lent now deed told =>
      show Errand.owed book _ (deedsIn commands d schedule i) = 0
      rw [deedsIn, deed, Errand.owed_lent]
    | refused idle =>
      obtain ⟨read, idle⟩ := idle
      show Errand.owed book _ (deedsIn commands d schedule i) = 0
      rw [deedsIn, idle, Errand.owed_nothing]
  have out : (endOf commands d schedule).world.ledger.out book =
      d.ledger.out book + (lentIn (endOf commands d schedule)).length := by
    have each : ∀ loan ∈ lentIn (endOf commands d schedule), loan.isOut book = true := by
      intro loan lent
      obtain ⟨i, made⟩ := race.mem_lentIn.mp lent
      obtain ⟨-, subject, borrowed, -⟩ := race.of_made made
      rw [Loan.isOut_of_borrowed borrowed]
      exact decide_eq_true subject
    rw [Ledger.out, race.ledger_perm.countP_eq, List.countP_append, List.countP_eq_length.mpr each]
    rfl
  rw [settled, Int.add_zero, Stores.stock?_of_find? there] at balance
  have balance : b.availableCopies + ((endOf commands d schedule).world.ledger.out book : Int) = _ :=
    Option.some.inj balance
  rw [out] at balance
  omega

/-- A call that was refused found no copy, and there is none in the end, or its user has the book. -/
theorem of_refused (race : Race commands d book copies schedule) {i : Nat} {c : Command}
    {user : UserId} {f : Failure} (at_ : commands[i]? = some c) (named : c.payload.userId = some user)
    (outcome : Outcome (commands.map .borrow) d schedule i c (.error f)) :
    (f = .noCopiesAvailable book ∧ ∃ b,
      (endOf commands d schedule).world.shelf.find? book = some b ∧ b.availableCopies ≤ 0) ∨
    (f = .alreadyBorrowed user book ∧
      user ∈ (lentIn (endOf commands d schedule)).map (·.userId)) := by
  obtain ⟨wanted, user', named', free⟩ := race.racers c (List.mem_of_getElem? at_)
  cases Option.some.inj (named.symm.trans named')
  cases outcome with
  | @refused f s read idle silent reached onward refusal dated =>
    have contest := race.contest reached
    obtain ⟨b, there, -⟩ := contest.shelf
    cases refusal with
    | noBook call wanted' gone =>
      cases call
      cases Option.some.inj (wanted.symm.trans wanted')
      cases there.symm.trans gone
    | @noCopies _ _ found _ call wanted' listed few =>
      cases call
      cases Option.some.inj (wanted.symm.trans wanted')
      -- No copy has come back since.
      obtain ⟨left_, le, still⟩ := onward.dwindles (allBorrow commands) contest.unsettled book found listed
      refine .inl ⟨rfl, _, still, ?_⟩
      show left_ ≤ 0
      omega
    | active call named' wanted' has =>
      cases call
      cases Option.some.inj (named.symm.trans named')
      cases Option.some.inj (wanted.symm.trans wanted')
      refine .inr ⟨rfl, List.mem_map.mpr ?_⟩
      obtain ⟨loan, mem, active⟩ := List.any_eq_true.mp has
      simp only [Loan.isActiveFor, Bool.and_eq_true, beq_iff_eq] at active
      obtain ⟨⟨owner, subject⟩, borrowed⟩ := active
      refine ⟨loan, race.mem_lentIn.mpr ?_, owner⟩
      rcases (contest.loans loan).mp mem with old | ⟨j, made⟩
      · rw [Ledger.not_borrowed_of_hasActive free old owner subject] at borrowed
        cases borrowed
      · exact ⟨j, onward.made?_kept made⟩
    | @tooLong _ _ _ now e call named' wanted' beyond =>
      cases call
      cases Option.some.inj (named.symm.trans named')
      cases Option.some.inj (wanted.symm.trans wanted')
      obtain ⟨draft, opens⟩ := race.representable i c user now at_ named (dated now rfl)
      cases opens.symm.trans beyond
    | noLoan call => cases call
    | notOwner call => cases call

/-- As many loans are made as there are copies or users, whichever are fewer. -/
theorem length_lentIn (race : Race commands d book copies schedule) :
    (lentIn (endOf commands d schedule)).length =
      min copies.toNat (commands.filterMap (·.payload.userId)).toFinset.card := by
  obtain ⟨b, there, nonneg, left_⟩ := race.left_on_shelf
  let served := (lentIn (endOf commands d schedule)).map (·.userId)
  have served_card : served.toFinset.card = (lentIn (endOf commands d schedule)).length := by
    rw [List.toFinset_card_of_nodup race.nodup_users, List.length_map]
  have asked : served.toFinset ⊆ (commands.filterMap (·.payload.userId)).toFinset := by
    intro user mem
    obtain ⟨loan, lent, rfl⟩ := List.mem_map.mp (List.mem_toFinset.mp mem)
    obtain ⟨i, made⟩ := race.mem_lentIn.mp lent
    obtain ⟨⟨c, at_, named⟩, -⟩ := race.of_made made
    exact List.mem_toFinset.mpr (List.mem_filterMap.mpr ⟨c, List.mem_of_getElem? at_, named⟩)
  have le := Finset.card_le_card asked
  by_cases none_left : b.availableCopies = 0
  · omega
  · -- With a copy left nobody was refused but those who have the book.
    have all_served : (commands.filterMap (·.payload.userId)).toFinset ⊆ served.toFinset := by
      intro user mem
      obtain ⟨c, listed, named⟩ := List.mem_filterMap.mp (List.mem_toFinset.mp mem)
      obtain ⟨i, at_⟩ := List.mem_iff_getElem?.mp listed
      rw [List.mem_toFinset]
      obtain ⟨r, -, outcome⟩ := race.outcome at_
      cases outcome with
      | @lent loan taken now deed told =>
        have made : (deedsIn commands d schedule i).made? = some loan := congrArg Deed.made? deed
        obtain ⟨⟨c', at', named'⟩, -⟩ := race.of_made made
        cases Option.some.inj (at_.symm.trans at')
        cases Option.some.inj (named.symm.trans named')
        exact List.mem_map_of_mem (race.mem_lentIn.mpr ⟨i, made⟩)
      | refused idle silent reached onward refusal dated =>
        rcases race.of_refused at_ named (.refused idle silent reached onward refusal dated) with
          ⟨-, b', there', few⟩ | ⟨-, has⟩
        · cases Option.some.inj (there.symm.trans there')
          omega
        · exact has
    have ge := Finset.card_le_card all_served
    omega

/-- What a call tells in a race is how many copies it has left. -/
theorem of_recorded (race : Race commands d book copies schedule) {i : Nat} {ev : Event}
    (told : (i, ev) ∈ recorded ((raceOf commands d).history Desk.answer schedule)) :
    ev.kind = .requested ∧ ∃ n, ev.remainingCopies = some n ∧
      (deedsIn commands d schedule i).leaves? book = some n := by
  have mem := mem_recorded_iff.mp told
  have call : ∃ c, commands[i]? = some c := by
    cases mirrors_of_run race.numbered race.any mem with
    | requested now call => exact ⟨_, borrow_at_iff.mp call⟩
    | returned now call =>
      obtain ⟨c, eq⟩ := allBorrow commands i _ call
      cases eq
  obtain ⟨c, at_⟩ := call
  obtain ⟨r, -, outcome⟩ := race.outcome at_
  cases outcome with
  | @lent loan taken now deed one =>
    rw [one, List.mem_singleton] at mem
    subst mem
    refine ⟨rfl, taken.availableCopies, rfl, ?_⟩
    have subject : taken.id = loan.bookId := by
      have coherent := coherent_of_run (commands.map .borrow) d race.any i
      rw [deed] at coherent
      exact coherent
    have made : (deedsIn commands d schedule i).made? = some loan := congrArg Deed.made? deed
    rw [deedsIn, deed]
    exact if_pos (subject.trans (race.of_made made).2.1)
  | refused idle silent =>
    rw [silent] at mem
    exact absurd mem List.not_mem_nil

/-- One event is told for every loan. -/
theorem length_recorded (race : Race commands d book copies schedule) :
    (recorded ((raceOf commands d).history Desk.answer schedule)).length =
      (lentIn (endOf commands d schedule)).length := by
  have tellers : ((recorded ((raceOf commands d).history Desk.answer schedule)).map Prod.fst).Perm
      ((List.range commands.length).filter fun i => (deedsIn commands d schedule i).made?.isSome) := by
    refine (List.perm_ext_iff_of_nodup (nodup_tellers (told_once_of_run race.any))
      (List.nodup_range.filter _)).mpr fun i => ?_
    rw [mem_tellers_iff, List.mem_filter, List.mem_range]
    constructor
    · intro told
      obtain ⟨ev, mem⟩ := List.exists_mem_of_ne_nil _ told
      obtain ⟨-, n, -, leaves⟩ := race.of_recorded (mem_recorded_iff.mpr mem)
      cases deed : deedsIn commands d schedule i with
      | lent loan taken =>
        have made : (deedsIn commands d schedule i).made? = some loan := congrArg Deed.made? deed
        obtain ⟨⟨c, at_, -⟩, -⟩ := race.of_made made
        exact ⟨(List.getElem?_eq_some_iff.mp at_).1, rfl⟩
      | nothing | opened | settled | restocked =>
        rw [deed] at leaves
        cases leaves
    · rintro ⟨lt, made⟩
      obtain ⟨r, -, outcome⟩ := race.outcome (List.getElem?_eq_getElem lt)
      cases outcome with
      | lent now deed one =>
        rw [one]
        exact List.cons_ne_nil _ _
      | refused idle =>
        obtain ⟨read, idle⟩ := idle
        rw [deedsIn, idle] at made
        cases made
  calc (recorded ((raceOf commands d).history Desk.answer schedule)).length
    _ = ((recorded ((raceOf commands d).history Desk.answer schedule)).map Prod.fst).length :=
        (List.length_map Prod.fst).symm
    _ = ((List.range commands.length).filter
          fun i => (deedsIn commands d schedule i).made?.isSome).length := tellers.length_eq
    _ = _ := by rw [race.lentIn_eq, List.length_filterMap_eq_countP, List.countP_eq_length_filter]

/-- The events tell the numbers below that of the copies, one after another, each once. -/
theorem counts_perm (race : Race commands d book copies schedule) :
    (((recorded ((raceOf commands d).history Desk.answer schedule)).map Prod.snd).map
        (·.remainingCopies)).Perm
      ((List.range (lentIn (endOf commands d schedule)).length).map
        fun n : Nat => some (copies - 1 - n)) := by
  have once : ∀ i, (toldBy ((raceOf commands d).history Desk.answer schedule) i).length ≤ 1 :=
    told_once_of_run race.any
  have tellers := nodup_tellers once
  have contest := race.contest race.reached
  rw [List.map_map]
  refine (List.subperm_of_subset ?_ ?_).perm_of_length_le ?_
  · -- Two calls that told the same number would have left the same.
    refine List.Nodup.map_on ?_ (.of_map _ tellers)
    rintro ⟨i, ev⟩ mem ⟨j, ev'⟩ mem' same
    obtain ⟨-, n, told, leaves⟩ := race.of_recorded mem
    obtain ⟨-, n', told', leaves'⟩ := race.of_recorded mem'
    have same : ev.remainingCopies = ev'.remainingCopies := same
    rw [told, told'] at same
    cases same
    exact List.inj_on_of_nodup_map tellers mem mem' (contest.apart i j n leaves leaves')
  · intro count listed
    obtain ⟨⟨i, ev⟩, mem, rfl⟩ := List.mem_map.mp listed
    obtain ⟨-, n, told, leaves⟩ := race.of_recorded mem
    obtain ⟨b, there, nonneg, -, others⟩ := contest.shelf
    obtain ⟨b', there', -, left_⟩ := race.left_on_shelf
    cases Option.some.inj (there.symm.trans there')
    have between := others i n leaves
    refine List.mem_map.mpr ⟨(copies - 1 - n).toNat, List.mem_range.mpr (by omega), ?_⟩
    show _ = ev.remainingCopies
    rw [told]
    congr 1
    omega
  · rw [List.length_map, List.length_map, List.length_range, race.length_recorded]

end Race

/-- However the calls of a race take turns: as many of them succeed as there are copies or users,
whichever are fewer, and no user twice; every other call is told that no copy is left, or that its user
has the book. The copies on the shelf go down by the successes, the ledger gains their loans, and their
events tell the copies that were left, each number once. -/
theorem race_of_run (race : Race commands d book copies schedule) :
    let p := endOf commands d schedule
    let loans := lentIn p
    loans.length = min copies.toNat (commands.filterMap (·.payload.userId)).toFinset.card ∧
      (loans.map (·.userId)).Nodup ∧
      (∀ (i : Nat) (c : Command) (user : UserId), commands[i]? = some c →
        c.payload.userId = some user →
          (∃ loan, p.results[i]? = some (some (.ok (.lent loan))) ∧ loan.userId = user ∧
            loan.bookId = book) ∨
          p.results[i]? = some (some (.error (.noCopiesAvailable book))) ∨
          p.results[i]? = some (some (.error (.alreadyBorrowed user book)))) ∧
      (∃ b, p.world.shelf.find? book = some b ∧ b.availableCopies = copies - loans.length) ∧
      p.world.ledger.loans.toList.Perm (d.ledger.loans.toList ++ loans) ∧
      ∃ news, p.world.events = d.events ++ news ∧ (∀ ev ∈ news, ev.kind = .requested) ∧
        (news.map (·.remainingCopies)).Perm
          ((List.range loans.length).map fun n : Nat => some (copies - 1 - n)) := by
  intro p loans
  refine ⟨race.length_lentIn, race.nodup_users, fun i c user at_ named => ?_, ?_, race.ledger_perm,
    (recorded ((raceOf commands d).history Desk.answer schedule)).map Prod.snd, ?_, ?_,
    race.counts_perm⟩
  · obtain ⟨r, ended, outcome⟩ := race.outcome at_
    cases outcome with
    | @lent loan taken now deed told =>
      have made : (deedsIn commands d schedule i).made? = some loan := congrArg Deed.made? deed
      obtain ⟨⟨c', at', named'⟩, subject, -⟩ := race.of_made made
      cases Option.some.inj (at_.symm.trans at')
      exact .inl ⟨loan, ended, Option.some.inj (named'.symm.trans named), subject⟩
    | refused idle silent reached onward refusal dated =>
      rcases race.of_refused at_ named (.refused idle silent reached onward refusal dated) with
        ⟨rfl, -⟩ | ⟨rfl, -⟩
      · exact .inr (.inl ended)
      · exact .inr (.inr ended)
  · obtain ⟨b, there, -, left_⟩ := race.left_on_shelf
    exact ⟨b, there, left_⟩
  · exact (Observed.run (commands.map .borrow) d race.any).2.record
  · intro ev mem
    obtain ⟨⟨i, ev⟩, told, rfl⟩ := List.mem_map.mp mem
    exact (race.of_recorded told).1

end Race

/-- To borrow the first book for this user. -/
def borrowFor (user : Int) : Command := ⟨.borrow, "", none, ⟨some ⟨user⟩, some ⟨1⟩, none, none⟩⟩

/-- One book, in two copies. -/
def twoCopies : Desk := { oneCopy with shelf := Register.empty.put ⟨⟨1⟩, "Emma", 2, 2⟩ }

/-- One user asks twice and two others once. -/
def threeUsers : List Command := [borrowFor 7, borrowFor 7, borrowFor 8, borrowFor 9]

/-- All take their steps in turn. -/
def inTurn : List Nat := (List.replicate 24 [3, 0, 1, 2]).flatten

/-- The clock stands still in this run. -/
theorem clock_threeUsers {i : Nat} {now : Instant}
    (dated : Dated ((raceOf threeUsers twoCopies).history Desk.answer (inTurn.map .step)) i now) :
    now = twoCopies.clock.read.1 := by
  have still : ((raceOf threeUsers twoCopies).history Desk.answer (inTurn.map .step)).all
      (fun x =>
        match x with
        | .asked _ .readClock found => decide (found.clock.read.1 = twoCopies.clock.read.1)
        | _ => true) = true := by decide +kernel
  obtain ⟨before, found, after, eq, -, rfl⟩ := dated
  rw [eq] at still
  exact of_decide_eq_true (List.all_eq_true.mp still (.asked i .readClock found) (by simp))

/-- Of the three users two get a copy, while they all take their steps in turn. -/
theorem race_of_run_threeUsers :
    let p := endOf threeUsers twoCopies (inTurn.map .step)
    p.results.map (fun r => (r.bind lentLoan?).map (·.userId)) =
        [some ⟨7⟩, none, none, some ⟨9⟩] ∧
      (lentIn p).length = min 2 3 ∧
      ∃ news, p.world.events = twoCopies.events ++ news ∧
        (news.map (·.remainingCopies)).Perm [some 1, some 0] := by
  have all_over : (endOf threeUsers twoCopies (inTurn.map .step)).results.all Option.isSome = true := by
    decide +kernel
  have race : Race threeUsers twoCopies ⟨1⟩ 2 (inTurn.map .step) := {
    calm := rfl
    permitted := permitted_steps _ _ _
    numbered := Ledger.numbered_empty
    registered := ⟨_, rfl, rfl⟩
    nonneg := by decide
    racers := by decide
    rested := Pool.atRest_of_results (List.all_eq_true.mp all_over)
    representable := by
      intro i c user now at_ named dated
      rw [clock_threeUsers dated]
      have usual : ∀ c ∈ threeUsers, c.payload.days = none := by decide
      rw [usual c (List.mem_of_getElem? at_)]
      exact ⟨_, rfl⟩ }
  obtain ⟨count, -, -, -, -, news, grown, -, told⟩ := race_of_run race
  have two : (lentIn (endOf threeUsers twoCopies (inTurn.map .step))).length = 2 := by
    rw [count]
    decide
  rw [two] at told
  exact ⟨by decide +kernel, two, news, grown, told⟩

end Lending

end Circulation
