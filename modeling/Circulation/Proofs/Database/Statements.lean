/- # Circulation.Proofs.Database.Statements -- what the statements do to the loans of a table

On the table of a list of loans each statement does to the rows what its call asks for of the loans: a
row is found by the number of its loan, settling a loan settles its row, a new row is that of the draft
under the next number, and a loan is found active if it is borrowed and, in the table, not returned.
-/
import Circulation.Proofs.Database.Rows

namespace Circulation.Database

open Time (Instant)

/-! ## Conditions -/

/-- A cell that is there is compared with the parameter. -/
theorem meets_equals {params : List Cell} {row : Record} {column : String} {place : Nat}
    {cell value : Cell} (there : row.lookup column = some cell) (full : cell ≠ .null)
    (given : Table.param? params place = some value) :
    Table.meets params row (.equals column place) = decide (cell = value) := by
  simp only [Table.meets, there, given, full, ne_eq, not_false_eq_true, decide_true, Bool.true_and]
  rfl

theorem id_eq_iff (a b : LoanId) : Cell.int a.value = .int b.value ↔ a = b := by
  cases a; cases b; simp

theorem user_eq_iff (a b : UserId) : Cell.int a.value = .int b.value ↔ a = b := by
  cases a; cases b; simp

theorem book_eq_iff (a b : BookId) : Cell.int a.value = .int b.value ↔ a = b := by
  cases a; cases b; simp

theorem borrowed_eq_iff (status : LoanStatus) :
    Cell.text status.text = .text LoanStatus.borrowed.text ↔ status = .borrowed := by
  cases status <;> decide

/-- A row has the number of its loan. -/
theorem meetsAll_findLoan (id : LoanId) (l : Loan) :
    Table.meetsAll (params (.findLoan id)) [.equals "id" 1] (rowOf l) = decide (l.id = id) := by
  have number : Table.meets (params (.findLoan id)) (rowOf l) (.equals "id" 1) =
      decide (Cell.int l.id.value = .int id.value) := meets_equals rfl (by simp) rfl
  simp only [Table.meetsAll, List.all_cons, List.all_nil, number, id_eq_iff, Bool.and_true]

theorem meetsAll_markReturned (id : LoanId) (user : UserId) (at_ : Instant) (l : Loan) :
    Table.meetsAll (params (.markReturned id user at_))
        [.equals "id" 3, .equals "user_id" 4, .equals "status" 5] (rowOf l) =
      decide (l.id = id ∧ l.userId = user ∧ l.status = .borrowed) := by
  have number : Table.meets (params (.markReturned id user at_)) (rowOf l) (.equals "id" 3) =
      decide (Cell.int l.id.value = .int id.value) := meets_equals rfl (by simp) rfl
  have owner : Table.meets (params (.markReturned id user at_)) (rowOf l) (.equals "user_id" 4) =
      decide (Cell.int l.userId.value = .int user.value) := meets_equals rfl (by simp) rfl
  have status : Table.meets (params (.markReturned id user at_)) (rowOf l) (.equals "status" 5) =
      decide (Cell.text l.status.text = .text LoanStatus.borrowed.text) := meets_equals rfl (by simp) rfl
  simp only [Table.meetsAll, List.all_cons, List.all_nil, number, owner, status, id_eq_iff, user_eq_iff,
    borrowed_eq_iff, Bool.and_true, Bool.decide_and]

theorem meetsAll_hasActiveLoan (user : UserId) (book : BookId) (l : Loan) :
    Table.meetsAll (params (.hasActiveLoan user book))
        [.equals "user_id" 1, .equals "book_id" 2, .equals "status" 3, .isNull "return_date"] (rowOf l) =
      decide (l.userId = user ∧ l.bookId = book ∧ l.status = .borrowed ∧ l.returnDate = none) := by
  have borrower : Table.meets (params (.hasActiveLoan user book)) (rowOf l) (.equals "user_id" 1) =
      decide (Cell.int l.userId.value = .int user.value) := meets_equals rfl (by simp) rfl
  have lent : Table.meets (params (.hasActiveLoan user book)) (rowOf l) (.equals "book_id" 2) =
      decide (Cell.int l.bookId.value = .int book.value) := meets_equals rfl (by simp) rfl
  have status : Table.meets (params (.hasActiveLoan user book)) (rowOf l) (.equals "status" 3) =
      decide (Cell.text l.status.text = .text LoanStatus.borrowed.text) := meets_equals rfl (by simp) rfl
  have open_ : Table.meets (params (.hasActiveLoan user book)) (rowOf l) (.isNull "return_date") =
      decide (l.returnDate = none) := by
    show (some ((l.returnDate.map microsOf).elim .null .time) == some Cell.null) = _
    cases l.returnDate <;> rfl
  simp only [Table.meetsAll, List.all_cons, List.all_nil, borrower, lent, status, open_, user_eq_iff,
    book_eq_iff, borrowed_eq_iff, Bool.and_true, Bool.decide_and]

/-! ## Statements -/

variable (loans : List Loan) (next : Int)

/-- The loan with the number is read, if there is one. -/
theorem run_findLoan (id : LoanId) (kept : ∀ l ∈ loans, Dated Kept l) :
    let out := (tableOf loans next).run (statement (.findLoan id))
    read (.findLoan id) out.1 = .ok (loans.find? fun l => l.id = id) ∧ out.2 = tableOf loans next := by
  intro out
  refine ⟨?_, rfl⟩
  have matching : (loans.map rowOf).filter (Table.meetsAll (params (.findLoan id)) [.equals "id" 1]) =
      (loans.filter fun l => l.id = id).map rowOf := by
    rw [List.filter_map]
    congr 2
    funext l
    exact meetsAll_findLoan id l
  have reply : out.1 = .rows loanSchema
      (((loans.filter fun l => l.id = id).map rowOf).map fun row => loanColumns.map (Table.cell row)) := by
    rw [← matching]
    rfl
  rw [reply, ← List.head?_filter]
  cases found : loans.filter fun l => l.id = id with
  | nil => rfl
  | cons l rest =>
    have mem : l ∈ loans := (List.mem_filter.mp (found ▸ List.mem_cons_self)).1
    have here : readLoan (typed (rowOf l)) = .ok l := readLoan_eq_ok_iff.mpr ⟨kept l mem, rfl⟩
    show (do return some (← readLoan (typed (rowOf l)))) = _
    rw [here]
    rfl

/-- A draft is added under the next number. -/
theorem run_createLoan {d : LoanDraft} (loaned : Whole d.loanDate) (due : Whole d.dueDate) :
    let out := (tableOf loans next).run (statement (.createLoan d))
    read (.createLoan d) out.1 = .ok (d.toLoan ⟨next⟩) ∧
      out.2 = tableOf (loans ++ [d.toLoan ⟨next⟩]) (next + 1) := by
  intro out
  have row : (tableOf loans next).newRow (statement (.createLoan d)).params
      [("user_id", .param 1), ("book_id", .param 2), ("loan_date", .param 3), ("due_date", .param 4),
        ("return_date", .null), ("status", .param 5)] = rowOf (d.toLoan ⟨next⟩) := by
    show [_, _, _, ("loan_date", ofInstant d.loanDate), ("due_date", ofInstant d.dueDate), _, _] = _
    rw [loaned.ofInstant, due.ofInstant]
    rfl
  refine ⟨rfl, ?_⟩
  show Table.mk _ _ (loans.map rowOf ++ [_]) _ = _
  rw [row]
  simp only [tableOf, List.map_append]
  rfl

/-- The loan with the number, if it is the user's and borrowed, is settled. -/
theorem run_markReturned (id : LoanId) (user : UserId) {at_ : Instant} (whole : Whole at_) :
    let out := (tableOf loans next).run (statement (.markReturned id user at_))
    read (.markReturned id user at_) out.1 =
        .ok (loans.any fun l => l.id = id ∧ l.userId = user ∧ l.status = .borrowed) ∧
      out.2 = tableOf (loans.map fun l =>
        if l.id = id ∧ l.userId = user ∧ l.status = .borrowed then l.settled at_ else l) next := by
  intro out
  have settled (l : Loan) : Table.write (params (.markReturned id user at_))
      [("status", .param 1), ("return_date", .param 2)] (rowOf l) = rowOf (l.settled at_) := by
    show [_, _, _, _, _, ("return_date", ofInstant at_), _] = _
    rw [whole.ofInstant]
    rfl
  have matching : Table.meetsAll (params (.markReturned id user at_))
      [.equals "id" 3, .equals "user_id" 4, .equals "status" 5] ∘ rowOf =
        fun l => decide (l.id = id ∧ l.userId = user ∧ l.status = .borrowed) :=
    funext (meetsAll_markReturned id user at_)
  refine ⟨?_, ?_⟩
  · show Except.ok (decide (0 < (loans.map rowOf).countP
      (Table.meetsAll (params (.markReturned id user at_)) _))) = _
    rw [List.countP_map, matching]
    rw [Except.ok.injEq, Bool.eq_iff_iff, decide_eq_true_iff, List.countP_pos_iff, List.any_eq_true]
  · have rows : (loans.map rowOf).map (fun row =>
        if Table.meetsAll (params (.markReturned id user at_))
            [.equals "id" 3, .equals "user_id" 4, .equals "status" 5] row
        then Table.write (params (.markReturned id user at_))
          [("status", .param 1), ("return_date", .param 2)] row
        else row) = (loans.map fun l =>
          if l.id = id ∧ l.userId = user ∧ l.status = .borrowed then l.settled at_ else l).map rowOf := by
      simp only [List.map_map]
      apply List.map_congr_left
      intro l _
      simp only [Function.comp_apply, meetsAll_markReturned, decide_eq_true_eq, settled]
      split <;> rfl
    show Table.mk _ _ ((loans.map rowOf).map _) _ = Table.mk _ _ _ _
    exact congrArg (Table.mk _ _ · _) rows

/-- Whether a loan of the book to the user is borrowed and not returned. -/
theorem run_hasActiveLoan (user : UserId) (book : BookId) :
    let out := (tableOf loans next).run (statement (.hasActiveLoan user book))
    read (.hasActiveLoan user book) out.1 =
        .ok (loans.any fun l =>
          l.userId = user ∧ l.bookId = book ∧ l.status = .borrowed ∧ l.returnDate = none) ∧
      out.2 = tableOf loans next := by
  intro out
  refine ⟨?_, rfl⟩
  show Except.ok ((loans.map rowOf).any _) = _
  rw [List.any_map]
  congr 2
  funext l
  exact meetsAll_hasActiveLoan user book l

end Circulation.Database
