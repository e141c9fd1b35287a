/- # Circulation.Proofs.Lending.Advances -- the stores move by move

In a run of calls on one gate the stores change only by steps of the call that holds the gate, and by
one of its advances at a time (`Tracked.stores_of_move`). The deed of the call before and after the step
goes with the advance, so what the call has made or settled by the end of the run tells which step
did it: it never makes or settles anything else (`Deed.made?_inHistory`, `Deed.settled?_inHistory`).
Of the clock it knows what it saw when it had done nothing yet (`dated_of_read`).
-/
import Circulation.Proofs.Lending.Standing
import Circulation.Proofs.Pool.Thread
import Mathlib.Data.List.Induction

namespace Circulation

open Time (Instant)

namespace Lending

/-! ## Moves and advances -/

section Moves

variable {α : Type} {sequel : Sequel α} {may : Faults → Prop} {drops : Prop} {errands : List Errand}
  {h : List (Happening Desk)} {p : Pool Desk α}

/-- A step of a task that asks something of the desk is an advance of its call, or leaves the stores
alone. -/
theorem Tracked.stores_of_ask (t : Tracked sequel may errands h p) (o : p.Orderly) {i : Nat}
    {q : Request} (asks : p.Asks i q) :
    (p.step Desk.answer i).world.stores = p.world.stores ∨
      ∃ e, errands[i]? = some e ∧
        Advance e (Deed.inHistory h i) p.world.stores
          (Deed.inHistory (h ++ p.happenings (.step i)) i) (p.step Desk.answer i).world.stores := by
  obtain ⟨next, here⟩ := asks
  cases gate : q.isGate with
  | true => exact .inl (congrArg Desk.stores (Pool.step_gate Desk.answer here gate).1)
  | false =>
    obtain ⟨step_eq, asked⟩ := Pool.step_ask Desk.answer here gate
    rw [step_eq, asked]
    by_cases held : p.gate.holder = some i
    · obtain ⟨e, named, -, course⟩ := (t.holder i _ held here).of_ask gate
      refine .inr ⟨e, named, ?_⟩
      rw [Deed.inHistory_asked, Function.update_self]
      exact (course p.world rfl t.faults).1
    · have other : q ≠ .enterGate := by
        rintro rfl
        cases gate
      exact .inl (Desk.stores_answer ((o.outside i _ held here).of_ask other).1 p.world)

/-- The stores stay as they are in a move, or the move is a step of a call and one of its advances. -/
theorem Tracked.stores_of_move (t : Tracked sequel may errands h p) (o : p.Orderly)
    {m : Pool.Move Desk} (ok : Permitted may drops m) :
    (p.move Desk.answer m).world.stores = p.world.stores ∨
      ∃ i e, m = .step i ∧ errands[i]? = some e ∧
        Advance e (Deed.inHistory h i) p.world.stores (Deed.inHistory (h ++ p.happenings m) i)
          (p.move Desk.answer m).world.stores := by
  rcases Pool.world_of_move Desk.answer p m with same | ⟨f, rfl, changed⟩ | ⟨i, q, rfl, asks, -⟩
  · exact .inl (congrArg Desk.stores same)
  · exact .inl (changed ▸ (ok p.world).1)
  · exact (t.stores_of_ask o asks).imp_right fun ⟨e, named, advance⟩ => ⟨i, e, rfl, named, advance⟩

end Moves

/-! ## Deeds are not undone -/

namespace Deed

/-- What no request undoes, the rest of a history does not undo. -/
theorem inHistory_append {P : Deed → Prop} (kept : ∀ deed q d, P deed → P (deed.after q d))
    {h : List (Happening Desk)} {i : Nat} (now : P (inHistory h i)) (later : List (Happening Desk)) :
    P (inHistory (h ++ later) i) := by
  induction later using List.reverseRecOn with
  | nil => rwa [List.append_nil]
  | append_singleton later last ih =>
    rw [← List.append_assoc]
    cases last with
    | admitted j =>
      rw [inHistory_admitted]
      exact ih
    | asked j q d =>
      rw [inHistory_asked]
      by_cases own : i = j
      · subst own
        rw [Function.update_self]
        exact kept _ q d ih
      · rw [Function.update_of_ne own]
        exact ih

theorem made?_after {loan : Loan} (deed : Deed) (q : Request) (d : Desk)
    (made : deed.made? = some loan) : (deed.after q d).made? = some loan := by
  cases deed with
  | opened loan' =>
    cases q with
    | store c =>
      cases c with
      | saveBook b =>
        simp only [after]
        split <;> exact made
      | _ => exact made
    | _ => exact made
  | lent loan' book => exact made
  | nothing | settled | restocked => cases made

theorem settled?_after {loan : Loan} (deed : Deed) (q : Request) (d : Desk)
    (settled : deed.settled? = some loan) : (deed.after q d).settled? = some loan := by
  cases deed with
  | settled loan' =>
    cases q with
    | store c =>
      cases c with
      | saveBook b =>
        simp only [after]
        split <;> exact settled
      | _ => exact settled
    | _ => exact settled
  | restocked loan' book => exact settled
  | nothing | opened | lent => cases settled

/-- A loan that a call has made stays the one that it has made. -/
theorem made?_inHistory {h : List (Happening Desk)} {i : Nat} {loan : Loan}
    (made : (inHistory h i).made? = some loan) (later : List (Happening Desk)) :
    (inHistory (h ++ later) i).made? = some loan :=
  inHistory_append (P := fun deed => deed.made? = some loan) made?_after made later

/-- A loan that a call has settled stays the one that it has settled. -/
theorem settled?_inHistory {h : List (Happening Desk)} {i : Nat} {loan : Loan}
    (settled : (inHistory h i).settled? = some loan) (later : List (Happening Desk)) :
    (inHistory (h ++ later) i).settled? = some loan :=
  inHistory_append (P := fun deed => deed.settled? = some loan) settled?_after settled later

end Deed

/-! ## What a call has read of the clock -/

/-- The call at a place looked at the clock before it did anything, and saw this. -/
def Dated (h : List (Happening Desk)) (i : Nat) (now : Instant) : Prop :=
  ∃ before found after, h = before ++ .asked i .readClock found :: after ∧
    (∃ r, Deed.inHistory before i = .nothing r) ∧ found.clock.read.1 = now

theorem Dated.append {h : List (Happening Desk)} {i : Nat} {now : Instant} (dated : Dated h i now)
    (later : List (Happening Desk)) : Dated (h ++ later) i now := by
  obtain ⟨before, found, after, rfl, idle, seen⟩ := dated
  exact ⟨before, found, after ++ later, by rw [List.append_assoc, List.cons_append], idle, seen⟩

/-- Whoever has done nothing yet had done nothing before, and has looked at the clock or not. -/
theorem Deed.of_after_eq_nothing {deed : Deed} {q : Request} {d : Desk} {r : Option Instant}
    (h : deed.after q d = .nothing r) :
    deed = .nothing r ∨ q = .readClock ∧ (∃ r', deed = .nothing r') ∧ r = some d.clock.read.1 := by
  cases deed with
  | nothing r' =>
    cases q with
    | readClock =>
      cases h
      exact .inr ⟨rfl, ⟨r', rfl⟩, rfl⟩
    | store c =>
      cases c with
      | createLoan draft =>
        simp only [after] at h
        split at h
        · exact .inl h
        · cases h
      | markReturned id user at_ =>
        simp only [after] at h
        split at h
        · cases h
        · exact .inl h
      | _ => exact .inl h
    | _ => exact .inl h
  | opened loan =>
    cases q with
    | store c =>
      cases c with
      | saveBook b =>
        simp only [after] at h
        split at h <;> cases h
      | _ => cases h
    | _ => cases h
  | settled loan =>
    cases q with
    | store c =>
      cases c with
      | saveBook b =>
        simp only [after] at h
        split at h <;> cases h
      | _ => cases h
    | _ => cases h
  | lent | restocked => cases h

/-- What a call that has done nothing has seen of the clock, it saw in the history. -/
theorem dated_of_read {h : List (Happening Desk)} {i : Nat} {now : Instant}
    (read : Deed.inHistory h i = .nothing (some now)) : Dated h i now := by
  induction h using List.reverseRecOn with
  | nil => cases read
  | append_singleton h last ih =>
    cases last with
    | admitted j =>
      rw [Deed.inHistory_admitted] at read
      exact (ih read).append _
    | asked j q d =>
      rw [Deed.inHistory_asked] at read
      by_cases own : i = j
      · subst own
        rw [Function.update_self] at read
        rcases Deed.of_after_eq_nothing read with before | ⟨rfl, idle, seen⟩
        · exact (ih before).append _
        · exact ⟨h, d, [], rfl, idle, (Option.some.inj seen).symm⟩
      · rw [Function.update_of_ne own] at read
        exact (ih read).append _

end Lending

end Circulation
