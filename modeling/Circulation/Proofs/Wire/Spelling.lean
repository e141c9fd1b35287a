/- # Circulation.Proofs.Wire.Spelling -- the texts of commands, events, loans and books

A message has many texts. `Spells` says for each kind of record which trees spell it: objects with
the fields of the record in any order, each under any spelling of its name and with any spelling of
its value, among any other members. A text of such a tree is then a text of the record. Every text of
a record that can be read at all is read as that record, so what a command leads to does not depend
on how it is spelled.
-/
import Circulation.Lending.Dispatch
import Circulation.Proofs.Wire.Field
import Circulation.Wire.Book
import Circulation.Wire.Event
import Circulation.Wire.Loan

namespace Circulation

open Json (Slot SpellsText SpellsChoice SpellsOption Fills Gives Text)
open Wire (SpellsInstant SpellsInt SpellsPresent SpellsDefault TextOf)

/-! ## Payloads -/

namespace Payload

/-- The numbers of the payload are whole numbers of sixty-four bits. -/
structure Fits (p : Payload) : Prop where
  user : ∀ n, p.userId.map UserId.value = some n → Fits64 n
  book : ∀ n, p.bookId.map BookId.value = some n → Fits64 n
  days : ∀ n, p.days = some n → Fits64 n
  loan : ∀ n, p.loanId.map LoanId.value = some n → Fits64 n

/-- No number that the payload names is 0. -/
structure NoZero (p : Payload) : Prop where
  user : ∀ n, p.userId.map UserId.value = some n → n ≠ 0
  book : ∀ n, p.bookId.map BookId.value = some n → n ≠ 0
  loan : ∀ n, p.loanId.map LoanId.value = some n → n ≠ 0

/-- The tree spells the payload. -/
inductive Spells (p : Payload) : Json → Prop where
  | mk {user book days loan : Slot} {tree : Json} :
      SpellsPresent (p.userId.map UserId.value) user →
      SpellsPresent (p.bookId.map BookId.value) book →
      SpellsOption SpellsInt p.days days →
      SpellsPresent (p.loanId.map LoanId.value) loan →
      Fills ["user_id", "book_id", "days", "loan_id"] [user, book, days, loan] tree →
      Spells p tree

theorem Spells.ofJson? {p : Payload} {tree : Json} (h : Spells p tree) (fits : p.Fits) :
    Payload.ofJson? tree = some p := by
  cases h with
  | mk user book days loan fills =>
    have slots := fills.slots? (by decide) 0
    have user := Wire.presentNumber?_of_spells user fits.user
    have book := Wire.presentNumber?_of_spells book fits.book
    have days := Wire.optional_int? days fits.days
    have loan := Wire.presentNumber?_of_spells loan fits.loan
    simp [Payload.ofJson?, slots, user, book, days, loan, Function.comp_def]

theorem of_ofJson? {tree : Json} {p : Payload} (h : Payload.ofJson? tree = some p) :
    p.Fits ∧ p.NoZero := by
  unfold Payload.ofJson? at h
  obtain ⟨slots, -, h⟩ := Option.bind_eq_some_iff.mp h
  split at h
  · obtain ⟨user, hu, h⟩ := Option.bind_eq_some_iff.mp h
    obtain ⟨book, hb, h⟩ := Option.bind_eq_some_iff.mp h
    obtain ⟨days, hd, h⟩ := Option.bind_eq_some_iff.mp h
    obtain ⟨loan, hl, h⟩ := Option.bind_eq_some_iff.mp h
    cases h
    have user := Wire.of_presentNumber? hu
    have book := Wire.of_presentNumber? hb
    have days := Wire.fits64_of_optional hd
    have loan := Wire.of_presentNumber? hl
    refine ⟨⟨?_, ?_, days, ?_⟩, ⟨?_, ?_, ?_⟩⟩
    · exact fun n h => (user n (by simpa using h)).1
    · exact fun n h => (book n (by simpa using h)).1
    · exact fun n h => (loan n (by simpa using h)).1
    · exact fun n h => (user n (by simpa using h)).2
    · exact fun n h => (book n (by simpa using h)).2
    · exact fun n h => (loan n (by simpa using h)).2
  · cases h

end Payload

/-! ## Commands -/

namespace Command

/-- The numbers of the command are whole numbers of sixty-four bits. -/
def Fits (c : Command) : Prop := c.payload.Fits

/-- The tree spells the command. -/
inductive Spells (c : Command) : Json → Prop where
  | mk {word : String} {kind payload tree : Json} {correlationId requestedAt : Slot} :
      SpellsChoice word kind → CommandKind.ofText word = c.kind →
      SpellsDefault c.correlationId correlationId →
      SpellsOption SpellsInstant c.requestedAt requestedAt →
      c.payload.Spells payload →
      Fills ["type", "correlation_id", "requested_at", "payload"]
        [some kind, correlationId, requestedAt, some payload] tree →
      Spells c tree

theorem Spells.ofJson? {c : Command} {tree : Json} (h : Spells c tree) (fits : c.Fits) :
    Command.ofJson? tree = some c := by
  cases h with
  | mk kind names correlationId requestedAt payload fills =>
    have slots := fills.slots? (by decide) 4
    have kind := kind.choice?
    have correlationId := Wire.withDefault_text? correlationId
    have requestedAt := Wire.optional_instant? requestedAt
    have payload := payload.ofJson? fits
    simp [Command.ofJson?, slots, Json.required, kind, correlationId, requestedAt, payload, names]

theorem of_ofJson? {tree : Json} {c : Command} (h : Command.ofJson? tree = some c) :
    c.Fits ∧ c.payload.NoZero := by
  unfold Command.ofJson? at h
  obtain ⟨slots, -, h⟩ := Option.bind_eq_some_iff.mp h
  split at h
  · obtain ⟨kind, -, h⟩ := Option.bind_eq_some_iff.mp h
    obtain ⟨correlationId, -, h⟩ := Option.bind_eq_some_iff.mp h
    obtain ⟨requestedAt, -, h⟩ := Option.bind_eq_some_iff.mp h
    obtain ⟨payload, hp, h⟩ := Option.bind_eq_some_iff.mp h
    cases h
    obtain ⟨j, -, read⟩ := Option.bind_eq_some_iff.mp hp
    exact Payload.of_ofJson? read
  · cases h

theorem decode?_of_textOf {c : Command} (fits : c.Fits) {text : Bytes} (h : TextOf c.Spells text) :
    decode? text = some c :=
  h.read? fun _ spells => spells.ofJson? fits

theorem of_decode? {message : Bytes} {c : Command} (h : decode? message = some c) :
    c.Fits ∧ c.payload.NoZero := by
  obtain ⟨tree, -, read⟩ := Option.bind_eq_some_iff.mp h
  exact of_ofJson? read

end Command

/-! ## Events -/

namespace Event

/-- The numbers of the event are whole numbers of sixty-four bits. -/
structure Fits (e : Event) : Prop where
  loan : Fits64 e.loanId.value
  user : Fits64 e.userId.value
  book : Fits64 e.bookId.value
  remaining : ∀ n, e.remainingCopies = some n → Fits64 n

/-- The tree spells the event. -/
inductive Spells (e : Event) : Json → Prop where
  | mk {word : String} {kind loan user book time tree : Json} {remaining due : Slot} :
      SpellsChoice word kind → EventKind.ofText word = e.kind →
      SpellsInt e.loanId.value loan → SpellsInt e.userId.value user →
      SpellsInt e.bookId.value book → SpellsInstant e.occurredAt time →
      SpellsOption SpellsInt e.remainingCopies remaining →
      SpellsOption SpellsInstant e.dueDate due →
      Fills ["event_type", "loan_id", "user_id", "book_id", "time", "remaining_copies", "due_date"]
        [some kind, some loan, some user, some book, some time, remaining, due] tree →
      Spells e tree

theorem Spells.ofJson? {e : Event} {tree : Json} (h : Spells e tree) (fits : e.Fits) :
    Event.ofJson? tree = some e := by
  cases h with
  | mk kind names loan user book time remaining due fills =>
    have slots := fills.slots? (by decide) 5
    have kind := kind.choice?
    have loan := loan.int? fits.loan
    have user := user.int? fits.user
    have book := book.int? fits.book
    have time := time.instant?
    have remaining := Wire.optional_int? remaining fits.remaining
    have due := Wire.optional_instant? due
    simp [Event.ofJson?, slots, Json.required, kind, names, Wire.loanId?, loan, Wire.userId?, user,
      Wire.bookId?, book, time, remaining, due]

theorem of_ofJson? {tree : Json} {e : Event} (h : Event.ofJson? tree = some e) : e.Fits := by
  unfold Event.ofJson? at h
  obtain ⟨slots, -, h⟩ := Option.bind_eq_some_iff.mp h
  split at h
  · obtain ⟨kind, -, h⟩ := Option.bind_eq_some_iff.mp h
    obtain ⟨loan, hl, h⟩ := Option.bind_eq_some_iff.mp h
    obtain ⟨user, hu, h⟩ := Option.bind_eq_some_iff.mp h
    obtain ⟨book, hb, h⟩ := Option.bind_eq_some_iff.mp h
    obtain ⟨time, -, h⟩ := Option.bind_eq_some_iff.mp h
    obtain ⟨remaining, hr, h⟩ := Option.bind_eq_some_iff.mp h
    obtain ⟨due, -, h⟩ := Option.bind_eq_some_iff.mp h
    cases h
    exact ⟨Wire.fits64_of_required_map (fun _ => rfl) hl, Wire.fits64_of_required_map (fun _ => rfl) hu,
      Wire.fits64_of_required_map (fun _ => rfl) hb, Wire.fits64_of_optional hr⟩
  · cases h

theorem decode?_of_textOf {e : Event} (fits : e.Fits) {text : Bytes} (h : TextOf e.Spells text) :
    decode? text = some e :=
  h.read? fun _ spells => spells.ofJson? fits

theorem of_decode? {message : Bytes} {e : Event} (h : decode? message = some e) :
    e.Fits := by
  obtain ⟨tree, -, read⟩ := Option.bind_eq_some_iff.mp h
  exact of_ofJson? read

end Event

/-! ## Loans -/

namespace Loan

/-- The numbers of the loan are whole numbers of sixty-four bits. -/
structure Fits (l : Loan) : Prop where
  id : Fits64 l.id.value
  user : Fits64 l.userId.value
  book : Fits64 l.bookId.value

/-- The tree spells the loan. -/
inductive Spells (l : Loan) : Json → Prop where
  | mk {word : String} {id user book loaned due status tree : Json} {returned : Slot} :
      SpellsInt l.id.value id → SpellsInt l.userId.value user → SpellsInt l.bookId.value book →
      SpellsInstant l.loanDate loaned → SpellsInstant l.dueDate due →
      SpellsOption SpellsInstant l.returnDate returned →
      SpellsChoice word status → LoanStatus.ofText? word = some l.status →
      Fills ["id", "user_id", "book_id", "loan_date", "due_date", "return_date", "status"]
        [some id, some user, some book, some loaned, some due, returned, some status] tree →
      Spells l tree

theorem Spells.ofJson? {l : Loan} {tree : Json} (h : Spells l tree) (fits : l.Fits) :
    Loan.ofJson? tree = some l := by
  cases h with
  | mk id user book loaned due returned status names fills =>
    have slots := fills.slots? (by decide) 7
    have id := id.int? fits.id
    have user := user.int? fits.user
    have book := book.int? fits.book
    have loaned := loaned.instant?
    have due := due.instant?
    have returned := Wire.optional_instant? returned
    have status := status.choice?
    simp [Loan.ofJson?, slots, Json.required, Wire.loanId?, id, Wire.userId?, user, Wire.bookId?,
      book, loaned, due, returned, status, names]

theorem of_ofJson? {tree : Json} {l : Loan} (h : Loan.ofJson? tree = some l) : l.Fits := by
  unfold Loan.ofJson? at h
  obtain ⟨slots, -, h⟩ := Option.bind_eq_some_iff.mp h
  split at h
  · obtain ⟨id, hi, h⟩ := Option.bind_eq_some_iff.mp h
    obtain ⟨user, hu, h⟩ := Option.bind_eq_some_iff.mp h
    obtain ⟨book, hb, h⟩ := Option.bind_eq_some_iff.mp h
    obtain ⟨loaned, -, h⟩ := Option.bind_eq_some_iff.mp h
    obtain ⟨due, -, h⟩ := Option.bind_eq_some_iff.mp h
    obtain ⟨returned, -, h⟩ := Option.bind_eq_some_iff.mp h
    obtain ⟨word, -, h⟩ := Option.bind_eq_some_iff.mp h
    obtain ⟨status, -, h⟩ := Option.bind_eq_some_iff.mp h
    cases h
    exact ⟨Wire.fits64_of_required_map (fun _ => rfl) hi, Wire.fits64_of_required_map (fun _ => rfl) hu,
      Wire.fits64_of_required_map (fun _ => rfl) hb⟩
  · cases h

theorem decode?_of_textOf {l : Loan} (fits : l.Fits) {text : Bytes} (h : TextOf l.Spells text) :
    decode? text = some l :=
  h.read? fun _ spells => spells.ofJson? fits

theorem of_decode? {message : Bytes} {l : Loan} (h : decode? message = some l) :
    l.Fits := by
  obtain ⟨tree, -, read⟩ := Option.bind_eq_some_iff.mp h
  exact of_ofJson? read

end Loan

/-! ## Books -/

namespace Book

/-- The numbers of the book are whole numbers of sixty-four bits. -/
structure Fits (b : Book) : Prop where
  id : Fits64 b.id.value
  total : Fits64 b.totalCopies
  available : Fits64 b.availableCopies

/-- The tree spells the book. -/
inductive Spells (b : Book) : Json → Prop where
  | mk {id title total available tree : Json} :
      SpellsInt b.id.value id → SpellsText b.title title →
      SpellsInt b.totalCopies total → SpellsInt b.availableCopies available →
      Fills ["id", "title", "total_copies", "available_copies"]
        [some id, some title, some total, some available] tree →
      Spells b tree

theorem Spells.ofJson? {b : Book} {tree : Json} (h : Spells b tree) (fits : b.Fits) :
    Book.ofJson? tree = some b := by
  cases h with
  | mk id title total available fills =>
    have slots := fills.slots? (by decide) 4
    have id := id.int? fits.id
    have title := title.text?
    have total := total.int? fits.total
    have available := available.int? fits.available
    simp [Book.ofJson?, slots, Json.required, Wire.bookId?, id, title, total, available]

theorem of_ofJson? {tree : Json} {b : Book} (h : Book.ofJson? tree = some b) : b.Fits := by
  unfold Book.ofJson? at h
  obtain ⟨slots, -, h⟩ := Option.bind_eq_some_iff.mp h
  split at h
  · obtain ⟨id, hi, h⟩ := Option.bind_eq_some_iff.mp h
    obtain ⟨title, -, h⟩ := Option.bind_eq_some_iff.mp h
    obtain ⟨total, ht, h⟩ := Option.bind_eq_some_iff.mp h
    obtain ⟨available, ha, h⟩ := Option.bind_eq_some_iff.mp h
    cases h
    exact ⟨Wire.fits64_of_required_map (fun _ => rfl) hi, Wire.fits64_of_required ht,
      Wire.fits64_of_required ha⟩
  · cases h

theorem decode?_of_textOf {b : Book} (fits : b.Fits) {text : Bytes} (h : TextOf b.Spells text) :
    decode? text = some b :=
  h.read? fun _ spells => spells.ofJson? fits

theorem of_decode? {message : Bytes} {b : Book} (h : decode? message = some b) :
    b.Fits := by
  obtain ⟨tree, -, read⟩ := Option.bind_eq_some_iff.mp h
  exact of_ofJson? read

end Book

/-! ## Reading does not depend on the spelling -/

namespace Wire

open Time (Instant)
open Time.Instant (Blanks YearText NumberText FractionText HoursAndMinutes OffsetText)

/-- Whatever can be read at all is read from each of its texts, and commands that are spelled
differently are answered by the same procedure. -/
theorem read_of_spelling :
    (∀ (c : Command) (message : Bytes), Command.decode? message = some c →
      (∀ text, TextOf c.Spells text → Command.decode? text = some c) ∧
      ∀ (d : Lending.Dispatcher) (a b : Bytes), TextOf c.Spells a → TextOf c.Spells b →
        d.dispatch a = d.dispatch b) ∧
    (∀ (e : Event) (message : Bytes), Event.decode? message = some e →
      ∀ text, TextOf e.Spells text → Event.decode? text = some e) ∧
    (∀ (l : Loan) (message : Bytes), Loan.decode? message = some l →
      ∀ text, TextOf l.Spells text → Loan.decode? text = some l) ∧
    ∀ (b : Book) (message : Bytes), Book.decode? message = some b →
      ∀ text, TextOf b.Spells text → Book.decode? text = some b := by
  refine ⟨?_, ?_, ?_, ?_⟩
  · intro c message h
    have fits := (Command.of_decode? h).1
    refine ⟨fun text => Command.decode?_of_textOf fits, ?_⟩
    intro d a b ha hb
    unfold Lending.Dispatcher.dispatch
    rw [Command.decode?_of_textOf fits ha, Command.decode?_of_textOf fits hb]
  · exact fun e message h text => Event.decode?_of_textOf (Event.of_decode? h)
  · exact fun l message h text => Loan.decode?_of_textOf (Loan.of_decode? h)
  · exact fun b message h text => Book.decode?_of_textOf (Book.of_decode? h)

/-- Half an hour before the end of 2023. -/
def newYear : Instant := ⟨1704065400, 0, by decide, by decide⟩

/-- The same instant, told where 2024 has begun. -/
def newYearText : String := "2024-1-01 05:00:0.000 +05:30"

theorem newYear_spells : SpellsInstant newYear (Json.ofText newYearText) := by
  have denotes : (⟨⟨2024, 1, 1⟩, 5, 0, 0, 0, 19800⟩ : Instant.LocalTime).Denotes newYear := by
    constructor <;> decide
  have year : YearText 2024 ['2', '0', '2', '4'] := .plain (n := 2024) rfl (by decide)
  have month : NumberText 1 ['1'] := ⟨rfl, by decide⟩
  have day : NumberText 1 ['0', '1'] := ⟨rfl, by decide⟩
  have hour : NumberText 5 ['0', '5'] := ⟨rfl, by decide⟩
  have minute : NumberText 0 ['0', '0'] := ⟨rfl, by decide⟩
  have second : NumberText 0 ['0'] := ⟨rfl, by decide⟩
  have fraction : FractionText 0 ['.', '0', '0', '0'] := .short (n := 0) rfl (by decide) rfl
  have blank : Blanks [' '] := List.all_eq_true.mp rfl
  have offset : OffsetText 19800 ['+', '0', '5', ':', '3', '0'] :=
    .east (@HoursAndMinutes.mk 5 30 ['0', '5'] [':'] ['3', '0'] rfl rfl (by decide)
      (fun c h => .inl (List.mem_singleton.mp h)) rfl rfl (by decide))
  exact .mk (.mk denotes (.mk .nil year .nil .nil month .nil .nil day) (.inr (.inr rfl))
    (.mk .nil hour .nil .nil minute .nil .nil second fraction) blank offset .nil)
    (Json.spellsText_ofText newYearText)

def newYearCommand : Command :=
  ⟨.borrow, "", some newYear, ⟨some ⟨7⟩, some ⟨1⟩, none, none⟩⟩

/-- The payload backwards, with a number 0, a null and a member that is not declared. -/
def newYearPayload : Json :=
  .object [Json.entry "loan_id" (Json.ofInt 0), Json.entry "days" .null,
    Json.entry "book_id" (Json.ofInt 1), Json.entry "user_id" (Json.ofInt 7),
    Json.entry "Days" (.bool true)]

/-- The key of the kind, with its first letter escaped. -/
def typeKey : Bytes := [0x5C, 0x75, 0x30, 0x30, 0x37, 0x34, 0x79, 0x70, 0x65]

def newYearTree : Json :=
  .object [Json.entry "payload" newYearPayload,
    Json.entry "requested_at" (Json.ofText newYearText), (typeKey, Json.ofText "borrow"),
    Json.entry "note" (.array [])]

theorem typeKey_spells : Json.Literal.Spells "type".toList typeKey := by
  have plain : Json.Literal.Spells ['y', 'p', 'e'] [0x79, 0x70, 0x65] :=
    .plain (by decide) (by decide) (by decide) (.plain (by decide) (by decide) (by decide)
      (.plain (by decide) (by decide) (by decide) .nil))
  exact .numeric rfl plain

theorem newYearPayload_spells : newYearCommand.payload.Spells newYearPayload := by
  have gives := (((Gives.nil.entry "loan_id" (Json.ofInt 0)).entry "days" .null).entry "book_id"
    (Json.ofInt 1)).entry "user_id" (Json.ofInt 7)
  exact .mk (.there (by decide)) (.there (by decide)) .null .zero
    (gives.fills_reverse (Json.foreign_entry (by decide) _))

theorem text_newYearPayload : Text (.tree newYearPayload) newYearPayload.render := by
  apply Json.text_render_object
  simp only [List.forall_mem_cons, List.not_mem_nil, false_imp_iff, implies_true, and_true]
  exact ⟨Json.writable_entry _ (Json.text_render_ofInt 0), Json.writable_entry _ .null,
    Json.writable_entry _ (Json.text_render_ofInt 1),
    Json.writable_entry _ (Json.text_render_ofInt 7), Json.writable_entry _ .yes⟩

theorem newYearTree_text : TextOf newYearCommand.Spells newYearTree.render := by
  have gives := Gives.there typeKey_spells (v := Json.ofText "borrow")
    (((Gives.nil.entry "payload" newYearPayload).entry "requested_at"
      (Json.ofText newYearText)).skip "correlation_id")
  refine ⟨newYearTree, .mk (Json.spellsChoice_ofText "borrow") rfl .missing (.there newYear_spells)
    newYearPayload_spells (gives.fills_reverse (Json.foreign_entry (by decide) _)),
    Json.text_render_object ?_⟩
  simp only [List.forall_mem_cons, List.not_mem_nil, false_imp_iff, implies_true, and_true]
  exact ⟨Json.writable_entry _ text_newYearPayload, Json.writable_entry _ (Json.text_render_ofText _),
    ⟨typeKey_spells.isLiteral, Json.text_render_ofText _⟩,
    Json.writable_entry _ (.emptyArray .nil)⟩

/-- An event of a kind that nobody knows. -/
def lostEvent : Event := ⟨.unknown, ⟨3⟩, ⟨7⟩, ⟨1⟩, newYear, none, none⟩

/-- The event backwards, with one absent value null and the other missing. -/
def lostTree : Json :=
  .object [Json.entry "remaining_copies" .null, Json.entry "time" (Json.ofText newYearText),
    Json.entry "book_id" (Json.ofInt 1), Json.entry "user_id" (Json.ofInt 7),
    Json.entry "loan_id" (Json.ofInt 3), Json.entry "event_type" (Json.ofText "LoanLost"),
    Json.entry "note" .null]

theorem lostTree_text : TextOf lostEvent.Spells lostTree.render := by
  have gives := ((((((Gives.nil.skip "due_date").entry "remaining_copies" .null).entry "time"
    (Json.ofText newYearText)).entry "book_id" (Json.ofInt 1)).entry "user_id"
    (Json.ofInt 7)).entry "loan_id" (Json.ofInt 3)).entry "event_type" (Json.ofText "LoanLost")
  refine ⟨lostTree, .mk (Json.spellsChoice_ofText "LoanLost") (by decide) .mk .mk .mk
    newYear_spells .null .missing (gives.fills_reverse (Json.foreign_entry (by decide) _)),
    Json.text_render_object ?_⟩
  simp only [List.forall_mem_cons, List.not_mem_nil, false_imp_iff, implies_true, and_true]
  exact ⟨Json.writable_entry _ .null, Json.writable_entry _ (Json.text_render_ofText _),
    Json.writable_entry _ (Json.text_render_ofInt 1),
    Json.writable_entry _ (Json.text_render_ofInt 7),
    Json.writable_entry _ (Json.text_render_ofInt 3),
    Json.writable_entry _ (Json.text_render_ofText _), Json.writable_entry _ .null⟩

theorem decode?_lostTree : Event.decode? lostTree.render = some lostEvent :=
  Event.decode?_of_textOf ⟨by decide, by decide, by decide, by rintro n ⟨⟩⟩ lostTree_text

def newYearLoan : Loan := ⟨⟨3⟩, ⟨7⟩, ⟨1⟩, newYear, newYear, none, .borrowed⟩

/-- The loan backwards, without a return date and with its status as the key of an object. -/
def loanTree : Json :=
  .object [Json.entry "status" (.object [Json.entry "borrowed" .null]),
    Json.entry "due_date" (Json.ofText newYearText),
    Json.entry "loan_date" (Json.ofText newYearText), Json.entry "book_id" (Json.ofInt 1),
    Json.entry "user_id" (Json.ofInt 7), Json.entry "id" (Json.ofInt 3), Json.entry "note" .null]

theorem loanTree_text : TextOf newYearLoan.Spells loanTree.render := by
  have status : Text (.tree (.object [Json.entry "borrowed" .null]))
      (Json.object [Json.entry "borrowed" .null]).render := by
    apply Json.text_render_object
    simp only [List.forall_mem_cons, List.not_mem_nil, false_imp_iff, implies_true, and_true]
    exact Json.writable_entry _ .null
  have gives := ((((((Gives.nil.entry "status" (.object [Json.entry "borrowed" .null])).skip
    "return_date").entry "due_date" (Json.ofText newYearText)).entry "loan_date"
    (Json.ofText newYearText)).entry "book_id" (Json.ofInt 1)).entry "user_id"
    (Json.ofInt 7)).entry "id" (Json.ofInt 3)
  refine ⟨loanTree, .mk .mk .mk .mk newYear_spells newYear_spells .missing
    (.object (Json.Literal.spells_ofText "borrowed")) rfl
    (gives.fills_reverse (Json.foreign_entry (by decide) _)), Json.text_render_object ?_⟩
  simp only [List.forall_mem_cons, List.not_mem_nil, false_imp_iff, implies_true, and_true]
  exact ⟨Json.writable_entry _ status, Json.writable_entry _ (Json.text_render_ofText _),
    Json.writable_entry _ (Json.text_render_ofText _),
    Json.writable_entry _ (Json.text_render_ofInt 1),
    Json.writable_entry _ (Json.text_render_ofInt 7),
    Json.writable_entry _ (Json.text_render_ofInt 3), Json.writable_entry _ .null⟩

theorem decode?_loanTree : Loan.decode? loanTree.render = some newYearLoan :=
  Loan.decode?_of_textOf ⟨by decide, by decide, by decide⟩ loanTree_text

def emma : Book := ⟨⟨1⟩, "Emma", 3, 2⟩

/-- The book backwards. -/
def emmaTree : Json :=
  .object [Json.entry "available_copies" (Json.ofInt 2), Json.entry "total_copies" (Json.ofInt 3),
    Json.entry "title" (Json.ofText "Emma"), Json.entry "id" (Json.ofInt 1), Json.entry "note" .null]

theorem emmaTree_text : TextOf emma.Spells emmaTree.render := by
  have gives := (((Gives.nil.entry "available_copies" (Json.ofInt 2)).entry "total_copies"
    (Json.ofInt 3)).entry "title" (Json.ofText "Emma")).entry "id" (Json.ofInt 1)
  refine ⟨emmaTree, .mk .mk (Json.spellsText_ofText "Emma") .mk .mk
    (gives.fills_reverse (Json.foreign_entry (by decide) _)), Json.text_render_object ?_⟩
  simp only [List.forall_mem_cons, List.not_mem_nil, false_imp_iff, implies_true, and_true]
  exact ⟨Json.writable_entry _ (Json.text_render_ofInt 2),
    Json.writable_entry _ (Json.text_render_ofInt 3),
    Json.writable_entry _ (Json.text_render_ofText _),
    Json.writable_entry _ (Json.text_render_ofInt 1), Json.writable_entry _ .null⟩

theorem decode?_emmaTree : Book.decode? emmaTree.render = some emma :=
  Book.decode?_of_textOf ⟨by decide, by decide, by decide⟩ emmaTree_text

/-- The text with a line before it and a tab behind it. -/
def spread (text : Bytes) : Bytes := [0x0D, 0x0A, 0x20] ++ text ++ [0x09]

theorem spread_text {kind : Json → Prop} {text : Bytes} (h : TextOf kind text) :
    TextOf kind (spread text) :=
  h.spaced (List.all_eq_true.mp rfl) (List.all_eq_true.mp rfl)

/-- Each of the four is read from its text, and from the same text spread over two lines. -/
theorem read_of_spelling_newYear :
    (Command.decode? newYearTree.render = some newYearCommand ∧
      Command.decode? (spread newYearTree.render) = some newYearCommand ∧
      Lending.Dispatcher.dispatch ⟨Lending.recordingSink, .redeliverAll⟩ newYearTree.render =
        Lending.Dispatcher.dispatch ⟨Lending.recordingSink, .redeliverAll⟩
          (spread newYearTree.render)) ∧
    (Event.decode? lostTree.render = some lostEvent ∧
      Event.decode? (spread lostTree.render) = some lostEvent) ∧
    (Loan.decode? loanTree.render = some newYearLoan ∧
      Loan.decode? (spread loanTree.render) = some newYearLoan) ∧
    Book.decode? emmaTree.render = some emma ∧ Book.decode? (spread emmaTree.render) = some emma := by
  obtain ⟨command, event, loan, book⟩ := read_of_spelling
  have fits : newYearCommand.Fits := by
    constructor <;> rintro n ⟨⟩ <;> decide
  have read := Command.decode?_of_textOf fits newYearTree_text
  obtain ⟨again, same⟩ := command _ _ read
  exact ⟨⟨read, again _ (spread_text newYearTree_text),
      same _ _ _ newYearTree_text (spread_text newYearTree_text)⟩,
    ⟨decode?_lostTree, event _ _ decode?_lostTree _ (spread_text lostTree_text)⟩,
    ⟨decode?_loanTree, loan _ _ decode?_loanTree _ (spread_text loanTree_text)⟩,
    decode?_emmaTree, book _ _ decode?_emmaTree _ (spread_text emmaTree_text)⟩

end Wire

end Circulation
