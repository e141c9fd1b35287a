/- # Circulation.Proofs.Book -- what becomes of the stock of a book

A step takes a copy, puts one back, or is refused and leaves the book as it is (`Goes`). From this one
case analysis follows what a sequence of steps does, whatever the counts were at the beginning: the
count moves by the steps that succeeded, it does not cross the limits that it respects, and a count
above its limit only comes down (`Within`). No record is too contradictory for that, and no count too
near the ends of its word: in words of sixty-four bits that refuse to wrap around, every sequence of
steps runs to its end, with the outcomes that whole numbers lead to (`InWords.run?_eq`).
-/
import Circulation.Book
import Circulation.Proofs.Time.Word

namespace Circulation

open Time.Instant (bmod_of_fits64)

/-! ## Sums of words -/

/-- A sum of words, unless it does not fit into a word. -/
def checkedAdd? (a b : Int64) : Option Int64 :=
  if a.toBitVec.saddOverflow b.toBitVec then none else some (a + b)

/-- A difference of words, unless it does not fit into a word. -/
def checkedSub? (a b : Int64) : Option Int64 :=
  if a.toBitVec.ssubOverflow b.toBitVec then none else some (a - b)

theorem checkedAdd?_of_fits64 {a b : Int64} (fits : Fits64 (a.toInt + b.toInt)) :
    ∃ c, checkedAdd? a b = some c ∧ c.toInt = a.toInt + b.toInt := by
  have room : ¬a.toBitVec.saddOverflow b.toBitVec = true := by
    unfold Fits64 at fits
    simp only [BitVec.saddOverflow, Int64.toInt_toBitVec, Bool.or_eq_true, decide_eq_true_eq]
    omega
  refine ⟨a + b, if_neg room, ?_⟩
  rw [Int64.toInt_add, bmod_of_fits64 fits]

theorem checkedAdd?_of_not_fits64 {a b : Int64} (wide : ¬Fits64 (a.toInt + b.toInt)) :
    checkedAdd? a b = none := by
  apply if_pos
  unfold Fits64 at wide
  simp only [BitVec.saddOverflow, Int64.toInt_toBitVec, Bool.or_eq_true, decide_eq_true_eq]
  omega

theorem checkedSub?_of_fits64 {a b : Int64} (fits : Fits64 (a.toInt - b.toInt)) :
    ∃ c, checkedSub? a b = some c ∧ c.toInt = a.toInt - b.toInt := by
  have room : ¬a.toBitVec.ssubOverflow b.toBitVec = true := by
    unfold Fits64 at fits
    simp only [BitVec.ssubOverflow, Int64.toInt_toBitVec, Bool.or_eq_true, decide_eq_true_eq]
    omega
  refine ⟨a - b, if_neg room, ?_⟩
  rw [Int64.toInt_sub, bmod_of_fits64 fits]

theorem fits64_toInt (a : Int64) : Fits64 a.toInt := ⟨a.le_toInt, a.toInt_lt⟩

namespace Book

/-! ## One step -/

/-- What can come of a step, and the book after it. -/
inductive Goes (b : Book) : StockStep → Except StockError Book → Book → Prop
  | taken {b' : Book} (copies : 1 ≤ b.availableCopies)
      (fewer : b' = { b with availableCopies := b.availableCopies - 1 }) : Goes b .take (.ok b') b'
  | noCopies (few : b.availableCopies < 1) : Goes b .take (.error .noCopiesAvailable) b
  | restocked {b' : Book} (room : b.availableCopies < b.totalCopies)
      (more : b' = { b with availableCopies := b.availableCopies + 1 }) : Goes b .restock (.ok b') b'
  | full (full : b.totalCopies ≤ b.availableCopies) : Goes b .restock (.error .fullyStocked) b

theorem afterStep_of_ok {b b' : Book} {s : StockStep} (h : b.stockStep s = .ok b') :
    b.afterStep s = b' := by
  simp only [afterStep, h]

theorem afterStep_of_error {b : Book} {s : StockStep} {e : StockError} (h : b.stockStep s = .error e) :
    b.afterStep s = b := by
  simp only [afterStep, h]

theorem goes (b : Book) (s : StockStep) : Goes b s (b.stockStep s) (b.afterStep s) := by
  cases s with
  | take =>
    rcases Int.lt_or_le b.availableCopies 1 with few | copies
    · have refused : b.stockStep .take = .error .noCopiesAvailable := takeCopy_of_lt few
      rw [afterStep_of_error refused, refused]
      exact .noCopies few
    · have done : b.stockStep .take = .ok _ := takeCopy_of_le copies
      rw [afterStep_of_ok done, done]
      exact .taken copies rfl
  | restock =>
    rcases Int.lt_or_le b.availableCopies b.totalCopies with room | full
    · have done : b.stockStep .restock = .ok _ := restockCopy_of_lt room
      rw [afterStep_of_ok done, done]
      exact .restocked room rfl
    · have refused : b.stockStep .restock = .error .fullyStocked := restockCopy_of_le full
      rw [afterStep_of_error refused, refused]
      exact .full full

namespace Goes

variable {b b' : Book} {s : StockStep} {outcome : Except StockError Book}

theorem noCopiesAvailable_iff (g : Goes b s outcome b') :
    outcome = .error .noCopiesAvailable ↔ s = .take ∧ b.availableCopies < 1 := by
  cases g with
  | taken copies => simp [Int.not_lt.mpr copies]
  | noCopies few => simp [few]
  | restocked | full => simp

theorem fullyStocked_iff (g : Goes b s outcome b') :
    outcome = .error .fullyStocked ↔ s = .restock ∧ b.totalCopies ≤ b.availableCopies := by
  cases g with
  | taken | noCopies => simp
  | restocked room => simp [Int.not_le.mpr room]
  | full full => simp [full]

/-- The count moves by one if the step succeeds. -/
theorem availableCopies (g : Goes b s outcome b') :
    b'.availableCopies = b.availableCopies -
      (if s = .take ∧ outcome.isOk = true then 1 else 0 : Nat) +
      (if s = .restock ∧ outcome.isOk = true then 1 else 0 : Nat) := by
  cases g with
  | taken _ fewer => simp [fewer, Except.isOk, Except.toBool]
  | restocked _ more => simp [more, Except.isOk, Except.toBool]
  | noCopies | full => simp [Except.isOk, Except.toBool]

theorem ok_iff (g : Goes b s outcome b') : outcome = .ok b' ↔ outcome.isOk = true := by
  cases g <;> simp [Except.isOk, Except.toBool]

end Goes

/-- A copy that was taken finds room again just if there were not more copies than there are in all. -/
theorem restockCopy_of_taken {b taken : Book} (took : b.takeCopy = .ok taken) :
    taken.restockCopy = .ok b ↔ b.availableCopies ≤ b.totalCopies := by
  rcases Int.lt_or_le b.availableCopies 1 with few | copies
  · rw [takeCopy_of_lt few] at took
    cases took
  rw [takeCopy_of_le copies] at took
  cases took
  by_cases within : b.availableCopies ≤ b.totalCopies
  · have room : b.availableCopies - 1 < b.totalCopies := by omega
    simp only [restockCopy_of_lt (b := { b with availableCopies := b.availableCopies - 1 }) room,
      Int.sub_add_cancel, within]
  · have full : b.totalCopies ≤ b.availableCopies - 1 := by omega
    simp only [restockCopy_of_le (b := { b with availableCopies := b.availableCopies - 1 }) full,
      within, reduceCtorEq]

/-! ## Steps in a row -/

@[simp]
theorem afterSteps_nil (b : Book) : b.afterSteps [] = b := rfl

@[simp]
theorem afterSteps_cons (b : Book) (s : StockStep) (rest : List StockStep) :
    b.afterSteps (s :: rest) = (b.afterStep s).afterSteps rest := rfl

theorem afterSteps_append (b : Book) (before after : List StockStep) :
    b.afterSteps (before ++ after) = (b.afterSteps before).afterSteps after := List.foldl_append

theorem length_outcomes (b : Book) (steps : List StockStep) :
    (b.outcomes steps).length = steps.length := by
  induction steps generalizing b with
  | nil => rfl
  | cons s rest ih => simp [outcomes, ih]

theorem outcomes_append (b : Book) (before after : List StockStep) :
    b.outcomes (before ++ after) = b.outcomes before ++ (b.afterSteps before).outcomes after := by
  induction before generalizing b with
  | nil => rfl
  | cons s rest ih => simp [outcomes, ih]

/-- The outcome of a step is that of the book which the steps before it have left. -/
theorem outcome_at (b : Book) (before : List StockStep) (s : StockStep) (after : List StockStep) :
    (b.outcomes (before ++ s :: after))[before.length]? = some ((b.afterSteps before).stockStep s) := by
  rw [outcomes_append, List.getElem?_append_right (Nat.le_of_eq (length_outcomes b before)),
    length_outcomes, Nat.sub_self]
  rfl

/-- How many steps of a kind succeed. -/
def successes (b : Book) (steps : List StockStep) (kind : StockStep) : Nat :=
  (steps.zip (b.outcomes steps)).countP fun (s, outcome) => s = kind && outcome.isOk

theorem successes_cons (b : Book) (s : StockStep) (rest : List StockStep) (kind : StockStep) :
    b.successes (s :: rest) kind = (b.afterStep s).successes rest kind +
      if s = kind ∧ (b.stockStep s).isOk = true then 1 else 0 := by
  simp [successes, outcomes, List.countP_cons]

/-- The count moves by the steps that succeeded. -/
theorem availableCopies_afterSteps (b : Book) (steps : List StockStep) :
    (b.afterSteps steps).availableCopies =
      b.availableCopies - b.successes steps .take + b.successes steps .restock := by
  induction steps generalizing b with
  | nil => simp [successes]
  | cons s rest ih =>
    have step := (b.goes s).availableCopies
    rw [afterSteps_cons, ih, successes_cons, successes_cons]
    omega

/-- What stays of a book from one moment to a later one: everything but the count of its copies on the
shelf, and of this the limits that it respects. Above its limit it does not grow. -/
structure Within (earlier later : Book) : Prop where
  id : later.id = earlier.id
  title : later.title = earlier.title
  total : later.totalCopies = earlier.totalCopies
  least : 0 ≤ earlier.availableCopies → 0 ≤ later.availableCopies
  most : earlier.availableCopies ≤ earlier.totalCopies → later.availableCopies ≤ later.totalCopies
  noMore : earlier.totalCopies < earlier.availableCopies → later.availableCopies ≤ earlier.availableCopies

namespace Within

theorem refl (b : Book) : Within b b := ⟨rfl, rfl, rfl, fun h => h, fun h => h, fun _ => Int.le_refl _⟩

theorem trans {b b' b'' : Book} (first : Within b b') (second : Within b' b'') : Within b b'' where
  id := second.id.trans first.id
  title := second.title.trans first.title
  total := second.total.trans first.total
  least := second.least ∘ first.least
  most := second.most ∘ first.most
  noMore above := by
    have fewer := first.noMore above
    have same := first.total
    -- Still above its limit it goes on coming down, and below it never gets above it again.
    by_cases still : b'.totalCopies < b'.availableCopies
    · exact Int.le_trans (second.noMore still) fewer
    · have below := second.most (Int.not_lt.mp still)
      have same' := second.total
      omega

end Within

theorem Goes.within {b b' : Book} {s : StockStep} {outcome : Except StockError Book}
    (g : Goes b s outcome b') : Within b b' := by
  cases g with
  | taken copies fewer =>
    subst fewer
    refine ⟨rfl, rfl, rfl, fun _ => ?_, fun within => ?_, fun _ => ?_⟩ <;> dsimp only <;> omega
  | restocked room more =>
    subst more
    refine ⟨rfl, rfl, rfl, fun least => ?_, fun _ => ?_, fun above => ?_⟩ <;> dsimp only <;> omega
  | noCopies | full => exact .refl b

theorem within_afterSteps (b : Book) (steps : List StockStep) : Within b (b.afterSteps steps) := by
  induction steps generalizing b with
  | nil => exact .refl b
  | cons s rest ih => exact (b.goes s).within.trans (ih (b.afterStep s))

/-! ## Steps in words -/

/-- A book whose counts are machine words. -/
structure InWords where
  id : BookId
  title : String
  total : Int64
  available : Int64

namespace InWords

/-- The book, with whole numbers for its counts. -/
def book (w : InWords) : Book := ⟨w.id, w.title, w.total.toInt, w.available.toInt⟩

/-- The outcome of a stock step; there is none if a word overflows. -/
def stockStep? (w : InWords) : StockStep → Option (Except StockError InWords)
  | .take =>
    if w.available < 1 then some (.error .noCopiesAvailable)
    else (checkedSub? w.available 1).map fun fewer => .ok { w with available := fewer }
  | .restock =>
    if w.total ≤ w.available then some (.error .fullyStocked)
    else (checkedAdd? w.available 1).map fun more => .ok { w with available := more }

/-- The book that a step with this outcome leaves. -/
def after (w : InWords) : Except StockError InWords → InWords
  | .ok w' => w'
  | .error _ => w

/-- The outcomes of steps that each start from the book the step before left, and the book after them;
there are none if a word overflows. -/
def run? (w : InWords) : List StockStep → Option (List (Except StockError InWords) × InWords)
  | [] => some ([], w)
  | s :: rest => do
    let outcome ← w.stockStep? s
    let (outcomes, last) ← (w.after outcome).run? rest
    some (outcome :: outcomes, last)

/-- No step overflows: one that would is refused. -/
theorem stockStep?_eq (w : InWords) (s : StockStep) :
    ∃ outcome, w.stockStep? s = some outcome ∧ outcome.map book = w.book.stockStep s ∧
      (w.after outcome).book = w.book.afterStep s := by
  have one : (1 : Int64).toInt = 1 := rfl
  obtain ⟨least, most⟩ := fits64_toInt w.available
  have step := w.book.goes s
  generalize w.book.stockStep s = outcome at step ⊢
  generalize w.book.afterStep s = next at step ⊢
  cases step with
  | taken copies fewer =>
    change 1 ≤ w.available.toInt at copies
    obtain ⟨count, difference, exact_⟩ := checkedSub?_of_fits64 (a := w.available) (b := 1)
      ⟨by rw [one]; omega, by rw [one]; omega⟩
    have some_ : ¬w.available < 1 := by
      rw [Int64.lt_iff_toInt_lt, one]
      omega
    have same : InWords.book { w with available := count } = next := by
      rw [fewer, book, exact_]
      rfl
    refine ⟨.ok { w with available := count }, ?_, congrArg Except.ok same, same⟩
    rw [stockStep?, if_neg some_, difference, Option.map_some]
  | noCopies few =>
    change w.available.toInt < 1 at few
    exact ⟨_, if_pos (Int64.lt_iff_toInt_lt.mpr few), rfl, rfl⟩
  | restocked room more =>
    change w.available.toInt < w.total.toInt at room
    have limit := w.total.toInt_lt
    obtain ⟨count, sum, exact_⟩ := checkedAdd?_of_fits64 (a := w.available) (b := 1)
      ⟨by rw [one]; omega, by rw [one]; omega⟩
    have some_ : ¬w.total ≤ w.available := by
      rw [Int64.le_iff_toInt_le]
      omega
    have same : InWords.book { w with available := count } = next := by
      rw [more, book, exact_]
      rfl
    refine ⟨.ok { w with available := count }, ?_, congrArg Except.ok same, same⟩
    rw [stockStep?, if_neg some_, sum, Option.map_some]
  | full full =>
    change w.total.toInt ≤ w.available.toInt at full
    exact ⟨_, if_pos (Int64.le_iff_toInt_le.mpr full), rfl, rfl⟩

/-- In words every sequence of steps runs to its end, with the outcomes that whole numbers lead to. -/
theorem run?_eq (w : InWords) (steps : List StockStep) :
    ∃ outcomes last, w.run? steps = some (outcomes, last) ∧
      outcomes.map (Except.map book) = w.book.outcomes steps ∧
      last.book = w.book.afterSteps steps := by
  induction steps generalizing w with
  | nil => exact ⟨[], w, rfl, rfl, rfl⟩
  | cons s rest ih =>
    obtain ⟨outcome, step, same, left_⟩ := w.stockStep?_eq s
    obtain ⟨outcomes, last, run, sames, end_⟩ := ih (w.after outcome)
    refine ⟨outcome :: outcomes, last, ?_, ?_, ?_⟩
    · simp [run?, step, run]
    · rw [List.map_cons, same, sames, left_, Book.outcomes]
    · rw [end_, left_, afterSteps_cons]

/-! ## Every sequence of steps -/

/-- Whatever words the counts of a book are, and whatever steps are tried one after the other: no word
overflows, the count is in the end what it was, less the copies taken and with those put back, and at
every moment
- a copy is refused just if there is none, one that comes back just if none is missing, and what is not
  refused is the book with which the next step begins,
- whatever is tried from then on changes nothing but the count, and this neither below nothing nor
  above the total nor, if it is above the total, at all upward,
- a copy that is taken and put back leaves the book as it was just if the count is not above the
  total. -/
theorem counts_of_steps (w : InWords) (steps : List StockStep) :
    (∃ outcomes last, w.run? steps = some (outcomes, last) ∧
        outcomes.map (Except.map book) = w.book.outcomes steps ∧
        last.book = w.book.afterSteps steps) ∧
      (w.book.afterSteps steps).availableCopies = w.available.toInt -
        w.book.successes steps .take + w.book.successes steps .restock ∧
      (∀ before s after, steps = before ++ s :: after →
        let now := w.book.afterSteps before
        ∃ outcome, (w.book.outcomes steps)[before.length]? = some outcome ∧
          (outcome = .error .noCopiesAvailable ↔ s = .take ∧ now.availableCopies < 1) ∧
          (outcome = .error .fullyStocked ↔ s = .restock ∧ now.totalCopies ≤ now.availableCopies) ∧
          (outcome = .ok (w.book.afterSteps (before ++ [s])) ↔ outcome.isOk = true)) ∧
      ∀ before after, steps = before ++ after →
        let now := w.book.afterSteps before
        Within now (w.book.afterSteps steps) ∧
          ∀ taken, now.takeCopy = .ok taken →
            (taken.restockCopy = .ok now ↔ now.availableCopies ≤ now.totalCopies) := by
  refine ⟨w.run?_eq steps, availableCopies_afterSteps w.book steps, ?_, ?_⟩
  · rintro before s after rfl
    intro now
    have step := now.goes s
    have next : now.afterStep s = w.book.afterSteps (before ++ [s]) := by
      rw [afterSteps_append]
      rfl
    rw [next] at step
    exact ⟨_, outcome_at w.book before s after, step.noCopiesAvailable_iff, step.fullyStocked_iff,
      step.ok_iff⟩
  · rintro before after rfl
    intro now
    refine ⟨?_, fun taken took => restockCopy_of_taken took⟩
    rw [afterSteps_append]
    exact within_afterSteps now after

/-- Of one copy three are on the shelf, and none is put back until all have been taken. -/
example : ((⟨⟨1⟩, "Emma", 1, 3⟩ : Book).outcomes
      [.restock, .take, .take, .restock, .take, .take, .restock]).map Except.isOk =
    [false, true, true, false, true, false, true] := by
  decide

end InWords

end Book

end Circulation
