/- # Circulation.Proofs.Database.Rows -- loans as rows of a table

A table keeps a loan as a row of seven cells, with its times as microseconds since 2000. An instant of
whole microseconds that is not a leap second is such a number and no other instant is the same number
(`toInstant?_eq_some_iff`); of a leap second only the number of the second after it is kept. So a loan
whose times are of that kind can be read from its row (`readLoan_eq_ok_iff`), and a row that keeps the
rules of the table is the row of the loan that is read from it (`eq_rowOf_of_readLoan`). The rules are
those of the columns, so numbers are of sixty-four bits, that of the next row included.
-/
import Circulation.Database.Store
import Circulation.Database.Table
import Circulation.Proofs.Time.Period
import Circulation.Proofs.Wire.Spelling

namespace Circulation.Database

open Time (Instant)

/-! ## Times -/

/-- Microseconds since 2000, a leap second counted as the second after it. -/
def microsOf (t : Instant) : Int := (t.seconds - timeOrigin) * 1000000 + (t.nanos / 1000 : Nat)

/-- The range of a column of times: from 4714-11-24 BC to the end of the year 294276. -/
def InRange (micros : Int) : Prop :=
  -211813488000000000 ≤ micros ∧ micros < 9223371331200000000

/-- A time of whole microseconds within the range. -/
structure Whole (t : Instant) : Prop where
  micros : t.nanos % 1000 = 0
  inRange : InRange (microsOf t)

/-- What is written of a time of whole microseconds is their number. -/
theorem Whole.ofInstant {t : Instant} (whole : Whole t) : ofInstant t = .time (microsOf t) := by
  have parts : (t.seconds - timeOrigin) * 1000000000 + (t.nanos : Int) = 1000 * microsOf t := by
    have := whole.micros
    unfold microsOf
    omega
  rw [Database.ofInstant, parts, Int.mul_tdiv_cancel_left _ (by decide)]

/-- The instant of a number of microseconds is the one that has this number and is no leap second. -/
theorem toInstant?_eq_some_iff {micros : Int} {t : Instant} :
    toInstant? micros = some t ↔ t.nanos % 1000 = 0 ∧ t.isLeap = false ∧ microsOf t = micros := by
  constructor
  · intro h
    obtain ⟨seconds, nanos⟩ := Instant.eq_of_ofUnix? h
    have part : micros % 1000000 < 1000000 := Int.emod_lt_of_pos micros (by decide)
    have sign : 0 ≤ micros % 1000000 := Int.emod_nonneg micros (by decide)
    unfold microsOf Instant.isLeap Time.nanosPerSecond
    refine ⟨by omega, by simp; omega, by omega⟩
  · rintro ⟨whole, plain, rfl⟩
    have part : ¬1000000000 ≤ t.nanos := of_decide_eq_false plain
    have seconds : timeOrigin + microsOf t / 1000000 = t.seconds := by
      unfold microsOf
      omega
    have nanos : (microsOf t % 1000000).toNat * 1000 = t.nanos := by
      unfold microsOf
      omega
    rw [toInstant?, seconds, nanos, Instant.ofUnix?_self]

/-! ## Rows -/

/-- The columns of the table of loans. -/
def loanSchema : List (String × ColumnType) :=
  [("id", .int8), ("user_id", .int8), ("book_id", .int8), ("loan_date", .timestamptz),
    ("due_date", .timestamptz), ("return_date", .timestamptz), ("status", .varchar)]

/-- What the cells of a row hold. -/
structure LoanCells where
  id : Int
  user : Int
  book : Int
  loaned : Int
  due : Int
  returned : Option Int
  status : String

namespace LoanCells

/-- The row with these cells. -/
def record (r : LoanCells) : Record :=
  [("id", .int r.id), ("user_id", .int r.user), ("book_id", .int r.book), ("loan_date", .time r.loaned),
    ("due_date", .time r.due), ("return_date", r.returned.elim .null .time), ("status", .text r.status)]

/-- The cells of a loan. -/
def ofLoan (l : Loan) : LoanCells :=
  ⟨l.id.value, l.userId.value, l.bookId.value, microsOf l.loanDate, microsOf l.dueDate,
    l.returnDate.map microsOf, l.status.text⟩

/-- What the rules of the table ask of one row: its numbers are of sixty-four bits, its times are in their
range, its status is one of three words, and its book is there. -/
structure Valid (books : BookId → Prop) (r : LoanCells) : Prop where
  numbers : Fits64 r.id ∧ Fits64 r.user ∧ Fits64 r.book
  loaned : InRange r.loaned
  due : InRange r.due
  returned : ∀ micros, r.returned = some micros → InRange micros
  status : r.status ∈ ["borrowed", "returned", "late"]
  book : books ⟨r.book⟩

end LoanCells

/-- The row of a loan. -/
def rowOf (l : Loan) : Record := (LoanCells.ofLoan l).record

/-- A row as a select of its columns gives it. -/
def typed (row : Record) : Row := loanSchema.map fun (name, type) => (name, type, Table.cell row name)

/-! ## Reading rows -/

theorem bind_eq_ok_iff {α β : Type} {x : Reading α} {f : α → Reading β} {b : β} :
    (x >>= f) = .ok b ↔ ∃ a, x = .ok a ∧ f a = .ok b := by
  cases x with
  | error e => simp [bind, Except.bind]
  | ok a => simp [bind, Except.bind]

/-- An instant that a row can keep. -/
structure Kept (t : Instant) : Prop where
  micros : t.nanos % 1000 = 0
  plain : t.isLeap = false

theorem readInstant_eq_ok_iff {micros : Int} {t : Instant} :
    readInstant (.timestamptz, .time micros) = .ok t ↔ Kept t ∧ micros = microsOf t := by
  have parts : toInstant? micros = some t ↔ Kept t ∧ micros = microsOf t := by
    rw [toInstant?_eq_some_iff]
    constructor
    · rintro ⟨whole, plain, number⟩
      exact ⟨⟨whole, plain⟩, number.symm⟩
    · rintro ⟨⟨whole, plain⟩, number⟩
      exact ⟨whole, plain, number.symm⟩
  rw [← parts]
  cases found : toInstant? micros <;> simp [readInstant, found]

theorem readNullable_eq_ok_iff {micros : Option Int} {o : Option Instant} :
    readNullable readInstant (.timestamptz, micros.elim .null .time) = .ok o ↔
      (∀ t, o = some t → Kept t) ∧ micros = o.map microsOf := by
  cases micros with
  | none =>
    show Except.ok none = .ok o ↔ _
    cases o <;> simp
  | some micros =>
    show (readInstant (.timestamptz, .time micros)).map some = .ok o ↔ _
    cases o with
    | none => cases readInstant (.timestamptz, .time micros) <;> simp [Except.map]
    | some t =>
      have parts : readInstant (.timestamptz, .time micros) = .ok t ↔ Kept t ∧ micros = microsOf t :=
        readInstant_eq_ok_iff
      cases read : readInstant (.timestamptz, .time micros) <;> simp_all [Except.map]

theorem ofText?_eq_some_iff {word : String} {status : LoanStatus} :
    LoanStatus.ofText? word = some status ↔ word = status.text := by
  constructor
  · intro h
    unfold LoanStatus.ofText? at h
    grind [LoanStatus.text]
  · rintro rfl
    exact status.ofText?_text

theorem readStatus_eq_ok_iff {r : LoanCells} {status : LoanStatus} :
    readStatus (typed r.record) = .ok status ↔ r.status = status.text := by
  have word : column readText (typed r.record) "status" = .ok r.status := rfl
  rw [← ofText?_eq_some_iff, readStatus, word]
  simp only [bind, Except.bind]
  cases LoanStatus.ofText? r.status <;> simp [pure, Except.pure]

/-- All times of the loan are of this kind. -/
structure Dated (kind : Instant → Prop) (l : Loan) : Prop where
  loaned : kind l.loanDate
  due : kind l.dueDate
  returned : ∀ t, l.returnDate = some t → kind t

/-- A row is read as a loan exactly if it is the row of that loan and the loan has times that a row can
keep. -/
theorem readLoan_eq_ok_iff {r : LoanCells} {l : Loan} :
    readLoan (typed r.record) = .ok l ↔ Dated Kept l ∧ r = .ofLoan l := by
  have cells : readLoan (typed r.record) = (do
      let status ← readStatus (typed r.record)
      let loaned ← readInstant (.timestamptz, .time r.loaned)
      let due ← readInstant (.timestamptz, .time r.due)
      let returned ← readNullable readInstant (.timestamptz, r.returned.elim .null .time)
      return ⟨⟨r.id⟩, ⟨r.user⟩, ⟨r.book⟩, loaned, due, returned, status⟩) := rfl
  simp only [cells, bind_eq_ok_iff, readStatus_eq_ok_iff, readInstant_eq_ok_iff, readNullable_eq_ok_iff]
  constructor
  · rintro ⟨status, word, loaned, ⟨kept, number⟩, due, ⟨kept', number'⟩, returned, ⟨kept'', number''⟩,
      made⟩
    cases made
    refine ⟨⟨kept, kept', kept''⟩, ?_⟩
    cases r
    simp_all [LoanCells.ofLoan]
  · rintro ⟨dated, rfl⟩
    exact ⟨l.status, rfl, l.loanDate, ⟨dated.loaned, rfl⟩, l.dueDate, ⟨dated.due, rfl⟩, l.returnDate,
      ⟨dated.returned, rfl⟩, rfl⟩

/-! ## Tables of loans -/

/-- A time that a column keeps as it is. -/
structure Storable (t : Instant) : Prop extends Whole t where
  plain : t.isLeap = false

theorem Storable.kept {t : Instant} (h : Storable t) : Kept t := ⟨h.micros, h.plain⟩

theorem Dated.mono {kind kind' : Instant → Prop} {l : Loan} (h : Dated kind l)
    (weaker : ∀ {t}, kind t → kind' t) : Dated kind' l :=
  ⟨weaker h.loaned, weaker h.due, fun t there => weaker (h.returned t there)⟩

/-- A table of loans that keeps its rules: columns and key are those that it was made with, no two rows
have one number, in each row the cells are valid, and there is a number for the next row. -/
structure IsLoans (books : BookId → Prop) (t : Table) : Prop where
  columns : t.columns = loanSchema
  key : t.key = "id"
  rows : ∀ row ∈ t.rows, ∃ r : LoanCells, r.Valid books ∧ row = r.record
  distinct : (t.rows.map (Table.cell · "id")).Nodup
  next : Fits64 t.nextKey

/-- These loans are read from the rows of the table. -/
def Reads (t : Table) (loans : List Loan) : Prop :=
  t.rows.map (fun row => readLoan (typed row)) = loans.map .ok

/-- The table with the rows of these loans. -/
def tableOf (loans : List Loan) (next : Int) : Table := ⟨loanSchema, "id", loans.map rowOf, next⟩

/-- A loan that a table can keep: its times stay as they are, its numbers are of sixty-four bits, and its
book is there. -/
structure Enterable (books : BookId → Prop) (l : Loan) : Prop where
  dated : Dated Storable l
  numbers : l.Fits
  book : books l.bookId

/-- A valid row that is read as a loan is the row of that loan. -/
theorem eq_rowOf_of_readLoan {books : BookId → Prop} {r : LoanCells} {l : Loan} (valid : r.Valid books)
    (read : readLoan (typed r.record) = .ok l) :
    r.record = rowOf l ∧ Enterable books l := by
  obtain ⟨kept, rfl⟩ := readLoan_eq_ok_iff.mp read
  have storable {t : Instant} (kept : Kept t) (inRange : InRange (microsOf t)) : Storable t :=
    ⟨⟨kept.micros, inRange⟩, kept.plain⟩
  obtain ⟨id, user, book⟩ := valid.numbers
  refine ⟨rfl, ⟨storable kept.loaned valid.loaned, storable kept.due valid.due, fun t there => ?_⟩,
    ⟨id, user, book⟩, valid.book⟩
  exact storable (kept.returned t there) (valid.returned _ (by simp [LoanCells.ofLoan, there]))

theorem Enterable.valid {books : BookId → Prop} {l : Loan} (h : Enterable books l) :
    (LoanCells.ofLoan l).Valid books where
  numbers := ⟨h.numbers.id, h.numbers.user, h.numbers.book⟩
  loaned := h.dated.loaned.inRange
  due := h.dated.due.inRange
  returned := by
    intro micros there
    obtain ⟨t, returned, rfl⟩ := Option.map_eq_some_iff.mp there
    exact (h.dated.returned t returned).inRange
  status := by
    show l.status.text ∈ _
    cases l.status <;> simp [LoanStatus.text]
  book := h.book

/-- Valid rows are the rows of the loans that are read from them. -/
theorem eq_map_rowOf {books : BookId → Prop} {rows : List Record} {loans : List Loan}
    (valid : ∀ row ∈ rows, ∃ r : LoanCells, r.Valid books ∧ row = r.record)
    (reads : rows.map (fun row => readLoan (typed row)) = loans.map .ok) :
    rows = loans.map rowOf ∧ ∀ l ∈ loans, Enterable books l := by
  induction rows generalizing loans with
  | nil =>
    cases loans with
    | nil => exact ⟨rfl, fun l mem => absurd mem List.not_mem_nil⟩
    | cons => cases reads
  | cons row rows ih =>
    cases loans with
    | nil => cases reads
    | cons l loans =>
      obtain ⟨first, rest⟩ := List.cons.inj reads
      obtain ⟨r, ok, rfl⟩ := valid row List.mem_cons_self
      obtain ⟨same, enterable⟩ := eq_rowOf_of_readLoan ok first
      obtain ⟨rows_eq, all⟩ := ih (fun row mem => valid row (List.mem_cons_of_mem _ mem)) rest
      exact ⟨by rw [same, rows_eq, List.map_cons], List.forall_mem_cons.mpr ⟨enterable, all⟩⟩

/-- A table that keeps its rules has the rows of the loans that are read from it. -/
theorem eq_tableOf {books : BookId → Prop} {t : Table} {loans : List Loan} (keeps : IsLoans books t)
    (reads : Reads t loans) :
    t = tableOf loans t.nextKey ∧ ∀ l ∈ loans, Enterable books l := by
  obtain ⟨rows, all⟩ := eq_map_rowOf keeps.rows reads
  refine ⟨?_, all⟩
  calc t = ⟨t.columns, t.key, t.rows, t.nextKey⟩ := rfl
    _ = tableOf loans t.nextKey := by rw [keeps.columns, keeps.key, rows, tableOf]

theorem reads_tableOf {loans : List Loan} (next : Int) (dated : ∀ l ∈ loans, Dated Kept l) :
    Reads (tableOf loans next) loans := by
  unfold Reads tableOf
  rw [List.map_map]
  exact List.map_congr_left fun l mem => readLoan_eq_ok_iff.mpr ⟨dated l mem, rfl⟩

end Circulation.Database
