/- # Circulation.Proofs.Wire.RoundTrip -- what is written is read again

The message that holds a record is one of the record's texts, so it is read as the record. Only a
command can come back changed: a number 0 in its payload says that there is none, and so it comes
back absent. What has been read once has no such number, and is then read again and again.
-/
import Circulation.Proofs.Time.Period
import Circulation.Proofs.Wire.Spelling

namespace Circulation

open Json (Slot SpellsOption Gives Printable Text)
open Wire (SpellsInstant SpellsInt SpellsPresent SpellsDefault TextOf)

/-! ## Fields that are written -/

namespace Wire

/-- A number that is 0 is written, and spells that there is none. -/
theorem spellsPresent_map {α : Type} {value : α → Int} {write : α → Json}
    (written : ∀ a, write a = Json.ofInt (value a)) (number : Option α) :
    SpellsPresent ((number.filter (value · ≠ 0)).map value) (number.map write) := by
  cases number with
  | none => exact .missing
  | some a =>
    rw [Option.map_some, written, Option.filter_some]
    by_cases zero : value a = 0
    · rw [if_neg (by simpa using zero), zero]
      exact .zero
    · rw [if_pos (by simpa using zero)]
      exact .there zero

theorem spellsOption_map {α : Type} {Spells : α → Json → Prop} {write : α → Json}
    (spells : ∀ a, Spells a (write a)) (value : Option α) :
    SpellsOption Spells value (value.map write) := by
  cases value with
  | none => exact .missing
  | some a => exact .there (spells a)

end Wire

/-! ## Payloads -/

namespace Payload

/-- The payload without the numbers that are 0. -/
def present (p : Payload) : Payload :=
  ⟨p.userId.filter (·.value ≠ 0), p.bookId.filter (·.value ≠ 0), p.days,
    p.loanId.filter (·.value ≠ 0)⟩

theorem present_of_noZero {p : Payload} (h : p.NoZero) : p.present = p := by
  have all : ∀ {α : Type} {value : α → Int} {number : Option α},
      (∀ n, number.map value = some n → n ≠ 0) → number.filter (value · ≠ 0) = number := by
    intro α value number some_
    cases number with
    | none => rfl
    | some a =>
      rw [Option.filter_some, if_pos]
      simpa using some_ (value a) rfl
  unfold present
  rw [all h.user, all h.book, all h.loan]

theorem Fits.present {p : Payload} (h : p.Fits) : p.present.Fits := by
  have kept : ∀ {α : Type} {value : α → Int} {number : Option α},
      (∀ n, number.map value = some n → Fits64 n) →
      ∀ n, (number.filter (value · ≠ 0)).map value = some n → Fits64 n := by
    intro α value number fits n hn
    obtain ⟨a, ha, rfl⟩ := Option.map_eq_some_iff.mp hn
    exact fits _ (Option.map_eq_some_iff.mpr ⟨a, (Option.filter_eq_some_iff.mp ha).1, rfl⟩)
  exact ⟨kept h.user, kept h.book, h.days, kept h.loan⟩

/-- The members of the payload as they are written. -/
theorem gives_toJson (p : Payload) : ∃ ms, p.toJson = .object ms ∧
    Gives ["user_id", "book_id", "days", "loan_id"] [p.userId.map Wire.ofUserId,
      p.bookId.map Wire.ofBookId, p.days.map Json.ofInt, p.loanId.map Wire.ofLoanId] ms := by
  refine ⟨_, rfl, ?_⟩
  have gives := (((Gives.nil.perhaps "loan_id" (p.loanId.map Wire.ofLoanId)).perhaps "days"
    (p.days.map Json.ofInt)).perhaps "book_id" (p.bookId.map Wire.ofBookId)).perhaps "user_id"
    (p.userId.map Wire.ofUserId)
  simpa only [List.append_assoc, List.append_nil] using gives

theorem spells_toJson (p : Payload) : p.present.Spells p.toJson := by
  obtain ⟨ms, written, gives⟩ := p.gives_toJson
  rw [written]
  exact .mk (Wire.spellsPresent_map (fun _ => rfl) p.userId)
    (Wire.spellsPresent_map (fun _ => rfl) p.bookId)
    (Wire.spellsOption_map (fun _ => .mk) p.days)
    (Wire.spellsPresent_map (fun _ => rfl) p.loanId) gives.fills

theorem text_toJson (p : Payload) : Text (.tree p.toJson) p.toJson.render := by
  obtain ⟨ms, written, gives⟩ := p.gives_toJson
  rw [written]
  apply gives.text_render
  simp only [List.forall_mem_cons, List.not_mem_nil, false_imp_iff, implies_true, and_true]
  exact ⟨.map (fun _ => Json.text_render_ofInt _) _, .map (fun _ => Json.text_render_ofInt _) _,
    .map Json.text_render_ofInt _, .map (fun _ => Json.text_render_ofInt _) _⟩

end Payload

/-! ## Commands -/

namespace Command

theorem gives_toJson (c : Command) : ∃ ms, c.toJson = .object ms ∧
    Gives ["type", "correlation_id", "requested_at", "payload"] [some (Json.ofText c.kind.text),
      if c.correlationId.isEmpty then none else some (Json.ofText c.correlationId),
      c.requestedAt.map Wire.ofInstant, some c.payload.toJson] ms := by
  refine ⟨_, rfl, ?_⟩
  have gives := (((Gives.nil.entry "payload" c.payload.toJson).perhaps "requested_at"
    (c.requestedAt.map Wire.ofInstant)).perhaps "correlation_id"
    (if c.correlationId.isEmpty then none else some (Json.ofText c.correlationId))).entry "type"
    (Json.ofText c.kind.text)
  simpa only [List.append_assoc, List.cons_append, List.nil_append] using gives

/-- An empty text is left out. -/
theorem spellsDefault_correlationId (s : String) :
    SpellsDefault s (if s.isEmpty then none else some (Json.ofText s)) := by
  by_cases empty : s.isEmpty = true
  · rw [if_pos empty, String.isEmpty_iff.mp empty]
    exact .missing
  · rw [if_neg empty]
    exact .there (Json.spellsText_ofText s)

theorem spells_toJson (c : Command) :
    Spells { c with payload := c.payload.present } c.toJson := by
  obtain ⟨ms, written, gives⟩ := c.gives_toJson
  rw [written]
  exact .mk (Json.spellsChoice_ofText c.kind.text) (CommandKind.ofText_text c.kind)
    (spellsDefault_correlationId c.correlationId)
    (Wire.spellsOption_map Wire.spellsInstant_ofInstant c.requestedAt)
    c.payload.spells_toJson gives.fills

theorem text_toJson (c : Command) : Text (.tree c.toJson) c.encode := by
  unfold encode
  obtain ⟨ms, written, gives⟩ := c.gives_toJson
  rw [written]
  apply gives.text_render
  simp only [List.forall_mem_cons, List.not_mem_nil, false_imp_iff, implies_true, and_true]
  refine ⟨.some (Json.text_render_ofText _), ?_, .map Wire.text_render_ofInstant _,
    .some c.payload.text_toJson⟩
  split
  · intro v h
    cases h
  · exact .some (Json.text_render_ofText _)

end Command

/-! ## Events -/

namespace Event

theorem gives_toJson (e : Event) : ∃ ms, e.toJson = .object ms ∧
    Gives ["event_type", "loan_id", "user_id", "book_id", "time", "remaining_copies", "due_date"]
      [some (Json.ofText e.kind.text), some (Wire.ofLoanId e.loanId), some (Wire.ofUserId e.userId),
        some (Wire.ofBookId e.bookId), some (Wire.ofInstant e.occurredAt),
        e.remainingCopies.map Json.ofInt, e.dueDate.map Wire.ofInstant] ms := by
  refine ⟨_, rfl, ?_⟩
  have optional := (Gives.nil.perhaps "due_date" (e.dueDate.map Wire.ofInstant)).perhaps
    "remaining_copies" (e.remainingCopies.map Json.ofInt)
  have gives := ((((optional.entry "time" (Wire.ofInstant e.occurredAt)).entry "book_id"
    (Wire.ofBookId e.bookId)).entry "user_id" (Wire.ofUserId e.userId)).entry "loan_id"
    (Wire.ofLoanId e.loanId)).entry "event_type" (Json.ofText e.kind.text)
  simpa only [List.append_assoc, List.cons_append, List.nil_append, List.append_nil] using gives

theorem spells_toJson (e : Event) : e.Spells e.toJson := by
  obtain ⟨ms, written, gives⟩ := e.gives_toJson
  rw [written]
  exact .mk (Json.spellsChoice_ofText e.kind.text) (EventKind.ofText_text e.kind) .mk .mk .mk
    (Wire.spellsInstant_ofInstant e.occurredAt)
    (Wire.spellsOption_map (fun _ => .mk) e.remainingCopies)
    (Wire.spellsOption_map Wire.spellsInstant_ofInstant e.dueDate) gives.fills

theorem text_toJson (e : Event) : Text (.tree e.toJson) e.encode := by
  unfold encode
  obtain ⟨ms, written, gives⟩ := e.gives_toJson
  rw [written]
  apply gives.text_render
  simp only [List.forall_mem_cons, List.not_mem_nil, false_imp_iff, implies_true, and_true]
  exact ⟨.some (Json.text_render_ofText _), .some (Json.text_render_ofInt _),
    .some (Json.text_render_ofInt _), .some (Json.text_render_ofInt _),
    .some (Wire.text_render_ofInstant _), .map Json.text_render_ofInt _,
    .map Wire.text_render_ofInstant _⟩

end Event

/-! ## Loans -/

namespace Loan

theorem gives_toJson (l : Loan) : ∃ ms, l.toJson = .object ms ∧
    Gives ["id", "user_id", "book_id", "loan_date", "due_date", "return_date", "status"]
      [some (Wire.ofLoanId l.id), some (Wire.ofUserId l.userId), some (Wire.ofBookId l.bookId),
        some (Wire.ofInstant l.loanDate), some (Wire.ofInstant l.dueDate),
        some ((l.returnDate.map Wire.ofInstant).getD .null), some (Json.ofText l.status.text)] ms :=
  ⟨_, rfl, ((((((Gives.nil.entry _ _).entry _ _).entry _ _).entry _ _).entry _ _).entry _ _).entry _ _⟩

/-- A date that is absent is written as null. -/
theorem spellsOption_returnDate (t : Option Time.Instant) :
    SpellsOption SpellsInstant t (some ((t.map Wire.ofInstant).getD .null)) := by
  cases t with
  | none => exact .null
  | some t => exact .there (Wire.spellsInstant_ofInstant t)

theorem spells_toJson (l : Loan) : l.Spells l.toJson := by
  obtain ⟨ms, written, gives⟩ := l.gives_toJson
  rw [written]
  exact .mk .mk .mk .mk (Wire.spellsInstant_ofInstant l.loanDate)
    (Wire.spellsInstant_ofInstant l.dueDate) (spellsOption_returnDate l.returnDate)
    (Json.spellsChoice_ofText l.status.text) (LoanStatus.ofText?_text l.status) gives.fills

theorem text_toJson (l : Loan) : Text (.tree l.toJson) l.encode := by
  unfold encode
  obtain ⟨ms, written, gives⟩ := l.gives_toJson
  rw [written]
  apply gives.text_render
  simp only [List.forall_mem_cons, List.not_mem_nil, false_imp_iff, implies_true, and_true]
  refine ⟨.some (Json.text_render_ofInt _), .some (Json.text_render_ofInt _),
    .some (Json.text_render_ofInt _), .some (Wire.text_render_ofInstant _),
    .some (Wire.text_render_ofInstant _), .some ?_, .some (Json.text_render_ofText _)⟩
  cases l.returnDate with
  | none => exact .null
  | some t => exact Wire.text_render_ofInstant t

end Loan

/-! ## Books -/

namespace Book

theorem gives_toJson (b : Book) : ∃ ms, b.toJson = .object ms ∧
    Gives ["id", "title", "total_copies", "available_copies"]
      [some (Wire.ofBookId b.id), some (Json.ofText b.title), some (Json.ofInt b.totalCopies),
        some (Json.ofInt b.availableCopies)] ms :=
  ⟨_, rfl, (((Gives.nil.entry _ _).entry _ _).entry _ _).entry _ _⟩

theorem spells_toJson (b : Book) : b.Spells b.toJson := by
  obtain ⟨ms, written, gives⟩ := b.gives_toJson
  rw [written]
  exact .mk .mk (Json.spellsText_ofText b.title) .mk .mk gives.fills

theorem text_toJson (b : Book) : Text (.tree b.toJson) b.encode := by
  unfold encode
  obtain ⟨ms, written, gives⟩ := b.gives_toJson
  rw [written]
  apply gives.text_render
  simp only [List.forall_mem_cons, List.not_mem_nil, false_imp_iff, implies_true, and_true]
  exact ⟨.some (Json.text_render_ofInt _), .some (Json.text_render_ofText _),
    .some (Json.text_render_ofInt _), .some (Json.text_render_ofInt _)⟩

end Book

/-! ## Round trips -/

/-- A command that fits is read back from its message, if it names no number 0. -/
theorem Command.decode?_encode {c : Command} (fits : c.Fits) (noZero : c.payload.NoZero) :
    Command.decode? c.encode = some c := by
  have kept : Command.Fits { c with payload := c.payload.present } := Payload.Fits.present fits
  have read := Command.decode?_of_textOf kept ⟨_, c.spells_toJson, c.text_toJson⟩
  rwa [Payload.present_of_noZero noZero] at read

/-- An event that fits is read back from its message. -/
theorem Event.decode?_encode {e : Event} (fits : e.Fits) : Event.decode? e.encode = some e :=
  Event.decode?_of_textOf fits ⟨_, e.spells_toJson, e.text_toJson⟩

namespace Wire

/-- A record whose numbers have sixty-four bits is read back from the message that holds it, a
command without the numbers of its payload that are 0. A record that was read has no such number and
is read back as it is, so that writing it again writes the same. -/
theorem round_trip :
    (∀ c : Command, c.Fits →
      Command.decode? c.encode = some { c with payload := c.payload.present }) ∧
    (∀ e : Event, e.Fits → Event.decode? e.encode = some e) ∧
    (∀ l : Loan, l.Fits → Loan.decode? l.encode = some l) ∧
    (∀ b : Book, b.Fits → Book.decode? b.encode = some b) ∧
    (∀ (message : Bytes) (c : Command), Command.decode? message = some c →
      c.payload.NoZero ∧ Command.decode? c.encode = some c) ∧
    (∀ (message : Bytes) (e : Event), Event.decode? message = some e →
      Event.decode? e.encode = some e) ∧
    (∀ (message : Bytes) (l : Loan), Loan.decode? message = some l →
      Loan.decode? l.encode = some l) ∧
    ∀ (message : Bytes) (b : Book), Book.decode? message = some b →
      Book.decode? b.encode = some b := by
  have command : ∀ c : Command, c.Fits →
      Command.decode? c.encode = some { c with payload := c.payload.present } := by
    intro c fits
    have kept : Command.Fits { c with payload := c.payload.present } := Payload.Fits.present fits
    exact Command.decode?_of_textOf kept ⟨_, c.spells_toJson, c.text_toJson⟩
  have event : ∀ e : Event, e.Fits → Event.decode? e.encode = some e :=
    fun e fits => Event.decode?_of_textOf fits ⟨_, e.spells_toJson, e.text_toJson⟩
  have loan : ∀ l : Loan, l.Fits → Loan.decode? l.encode = some l :=
    fun l fits => Loan.decode?_of_textOf fits ⟨_, l.spells_toJson, l.text_toJson⟩
  have book : ∀ b : Book, b.Fits → Book.decode? b.encode = some b :=
    fun b fits => Book.decode?_of_textOf fits ⟨_, b.spells_toJson, b.text_toJson⟩
  refine ⟨command, event, loan, book, ?_, ?_, ?_, ?_⟩
  · intro message c h
    obtain ⟨fits, noZero⟩ := Command.of_decode? h
    refine ⟨noZero, ?_⟩
    rw [command c fits, Payload.present_of_noZero noZero]
  · exact fun message e h => event e (Event.of_decode? h)
  · exact fun message l h => loan l (Loan.of_decode? h)
  · exact fun message b h => book b (Book.of_decode? h)

/-- The middle of a leap second. -/
def halfOver : Time.Instant := .leapSecond ⟨500000000, by decide⟩

/-- The first instant of all. -/
def firstInstant : Time.Instant := ⟨Time.earliest, 0, by decide, by decide⟩

/-- A command at the limits of its numbers, with a number 0 and a text that must be escaped. -/
def edgeCommand : Command :=
  ⟨.giveBack, "\"\\\n\x01", some halfOver,
    ⟨some ⟨0⟩, some ⟨9223372036854775807⟩, some (-9223372036854775808), none⟩⟩

/-- The command without the number 0. -/
def settledCommand : Command :=
  { edgeCommand with
    payload := ⟨none, some ⟨9223372036854775807⟩, some (-9223372036854775808), none⟩ }

def edgeEvent : Event :=
  ⟨.approved, ⟨-9223372036854775808⟩, ⟨0⟩, ⟨1⟩, firstInstant, some 0, some halfOver⟩

def edgeLoan : Loan := ⟨⟨0⟩, ⟨-1⟩, ⟨1⟩, firstInstant, halfOver, none, .late⟩

def edgeBook : Book := ⟨⟨1⟩, "\t∀𝄞", -9223372036854775808, 9223372036854775807⟩

/-- Records at the limits are read back, and so are records read from other texts of theirs. -/
theorem round_trip_edges :
    (edgeCommand.Fits ∧ Command.decode? edgeCommand.encode = some settledCommand) ∧
    (edgeEvent.Fits ∧ Event.decode? edgeEvent.encode = some edgeEvent) ∧
    (edgeLoan.Fits ∧ Loan.decode? edgeLoan.encode = some edgeLoan) ∧
    (edgeBook.Fits ∧ Book.decode? edgeBook.encode = some edgeBook) ∧
    (settledCommand.payload.NoZero ∧
      Command.decode? settledCommand.encode = some settledCommand) ∧
    (Event.decode? lostTree.render = some lostEvent ∧
      Event.decode? lostEvent.encode = some lostEvent) ∧
    (Loan.decode? loanTree.render = some newYearLoan ∧
      Loan.decode? newYearLoan.encode = some newYearLoan) ∧
    Book.decode? emmaTree.render = some emma ∧ Book.decode? emma.encode = some emma := by
  obtain ⟨command, event, loan, book, command', event', loan', book'⟩ := round_trip
  have fits : edgeCommand.Fits := by
    constructor <;> rintro n ⟨⟩ <;> decide
  have fitsEvent : edgeEvent.Fits := ⟨by decide, by decide, by decide, by rintro n ⟨⟩; decide⟩
  have fitsLoan : edgeLoan.Fits := ⟨by decide, by decide, by decide⟩
  have fitsBook : edgeBook.Fits := ⟨by decide, by decide, by decide⟩
  have read : Command.decode? edgeCommand.encode = some settledCommand := command edgeCommand fits
  exact ⟨⟨fits, read⟩, ⟨fitsEvent, event edgeEvent fitsEvent⟩, ⟨fitsLoan, loan edgeLoan fitsLoan⟩,
    ⟨fitsBook, book edgeBook fitsBook⟩, command' edgeCommand.encode settledCommand read,
    ⟨decode?_lostTree, event' _ lostEvent decode?_lostTree⟩,
    ⟨decode?_loanTree, loan' _ newYearLoan decode?_loanTree⟩,
    decode?_emmaTree, book' _ emma decode?_emmaTree⟩

end Wire

end Circulation
