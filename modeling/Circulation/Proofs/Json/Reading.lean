/- # Circulation.Proofs.Json.Reading -- the reader reads every text

Whatever text of a tree the grammar allows, the reader finds that tree. The induction is on the
rules of the grammar. What a rule leaves the machine in is not one state: a numeral shows its end
only by the byte behind it, so the machine is either past the value or still at a numeral that may
end. `Behind` holds both, and a space or a delimiter is taken alike from both.
-/
import Circulation.Json.Reader
import Circulation.Proofs.Json.Grammar

namespace Circulation.Json

namespace Reader

/-! ## Runs in pieces -/

theorem run_then {r r' : Reader} {a : Bytes} (h : r.run a = some r') (b : Bytes) :
    r.run (a ++ b) = r'.run b := by
  rw [run_append, h, Option.bind_some]

theorem run_step {r r' : Reader} {b : UInt8} (h : r.step b = some r') (bs : Bytes) :
    r.run (b :: bs) = r'.run bs := by
  rw [run_cons, h, Option.bind_some]

theorem run_singleton (r : Reader) (b : UInt8) : r.run [b] = r.step b := by
  cases h : r.step b with
  | none => rw [run_cons, h, Option.bind_none]
  | some r' => rw [run_step h, run_nil]

/-! ## White space -/

/-- A row of bytes that each leave the machine as it is. -/
theorem run_of_stays {r : Reader} {bs : Bytes} (stays : ∀ b ∈ bs, r.step b = some r) :
    r.run bs = some r := by
  induction bs with
  | nil => rfl
  | cons b bs ih =>
    rw [run_cons, stays b List.mem_cons_self]
    exact ih fun c hc => stays c (List.mem_cons_of_mem _ hc)

/-- The modes in which white space changes nothing. -/
def Mode.idle : Mode → Bool
  | .value | .firstElement | .firstKey | .key | .colon _ | .afterValue | .finished _ => true
  | _ => false

theorem step_space {m : Mode} {b : UInt8} (idle : Mode.idle m = true) (space : isSpace b = true)
    (stack : List Frame) : (Reader.mk m stack).step b = some ⟨m, stack⟩ := by
  cases m <;> simp_all [Mode.idle, step]

theorem run_spaces {m : Mode} {bs : Bytes} (idle : Mode.idle m = true) (spaces : Spaces bs)
    (stack : List Frame) : (Reader.mk m stack).run bs = some ⟨m, stack⟩ :=
  run_of_stays fun b hb => step_space idle (spaces b hb) stack

/-! ## Strings -/

/-- Inside a string the machine keeps every byte of a literal. -/
theorem run_literal {literal : Bytes} (ok : IsLiteral literal) (role : Role) (done : Bytes)
    (stack : List Frame) :
    (Reader.mk (.string role .none done) stack).run literal =
      some ⟨.string role .none (literal.reverse ++ done), stack⟩ := by
  induction ok generalizing done with
  | nil => rfl
  | @plain b rest low quote backslash _ ih =>
    have high : ¬ b < 0x20 := UInt8.not_lt.mpr low
    simp [run_cons, step, insideString, quote, backslash, high, ih]
  | @short e rest known _ ih =>
    have letter : e ≠ 0x75 := by
      rintro rfl
      exact absurd known (by decide)
    simp [run_cons, step, insideString, letter, known, ih]
  | numeric h₁ h₂ h₃ h₄ _ ih =>
    simp [run_cons, step, insideString, h₁, h₂, h₃, h₄, ih]

theorem step_stringEnd (done : Bytes) (stack : List Frame) :
    (Reader.mk (.string .value .none done) stack).step 0x22 =
      complete (.string done.reverse) stack := rfl

theorem step_keyEnd (done : Bytes) (stack : List Frame) :
    (Reader.mk (.string .key .none done) stack).step 0x22 =
      some ⟨.colon done.reverse, stack⟩ := rfl

end Reader

/-! ## Numerals -/

namespace Numeral

/-- The part of a numeral that a row of bytes leads to. -/
def after? (part : Numeral) (bs : Bytes) : Option Numeral := bs.foldlM next? part

theorem after?_cons (part : Numeral) (b : UInt8) (bs : Bytes) :
    part.after? (b :: bs) = (part.next? b).bind (·.after? bs) := rfl

theorem after?_append (part : Numeral) (a b : Bytes) :
    part.after? (a ++ b) = (part.after? a).bind (·.after? b) := by
  simp [after?, List.foldlM_append, bind]

/-- The parts that consist of any number of digits. -/
def isRow : Numeral → Bool
  | .whole | .fraction | .exponentDigits => true
  | _ => false

theorem after?_digits {part : Numeral} (row : part.isRow = true) {ds : Bytes}
    (digits : IsDigits ds) : part.after? ds = some part := by
  induction ds with
  | nil => rfl
  | cons d ds ih =>
    have digit := digits d List.mem_cons_self
    have stays : part.next? d = some part := by
      cases part <;> simp_all [isRow, next?]
    rw [after?_cons, stays]
    exact ih fun c hc => digits c (List.mem_cons_of_mem _ hc)

/-- The parts behind which a fraction may come. -/
def isWhole : Numeral → Bool
  | .zero | .whole => true
  | _ => false

/-- The parts behind which an exponent may come. -/
def isMantissa : Numeral → Bool
  | .zero | .whole | .fraction => true
  | _ => false

theorem after?_whole {bs : Bytes} (h : IsWhole bs) :
    ∃ part, part.isWhole = true ∧ Numeral.minus.after? bs = some part := by
  cases h with
  | zero => exact ⟨.zero, rfl, rfl⟩
  | @more d ds digit positive digits =>
    have first : Numeral.minus.next? d = some .whole := by simp [next?, digit, positive]
    refine ⟨.whole, rfl, ?_⟩
    rw [after?_cons, first]
    exact after?_digits rfl digits

theorem after?_fraction {bs : Bytes} (h : IsFraction bs) {part : Numeral}
    (whole : part.isWhole = true) :
    ∃ part', part'.isMantissa = true ∧ part.after? bs = some part' := by
  cases h with
  | none =>
    refine ⟨part, ?_, rfl⟩
    cases part <;> simp_all [isWhole, isMantissa]
  | @digits d ds digit digits =>
    have noDigit : isDigit 0x2E = false := rfl
    have point : part.next? 0x2E = some .point := by
      cases part <;> simp_all [isWhole, next?, next?.afterWhole]
    have first : Numeral.point.next? d = some .fraction := by simp [next?, digit]
    refine ⟨.fraction, rfl, ?_⟩
    rw [after?_cons, point, Option.bind_some, after?_cons, first]
    exact after?_digits rfl digits

theorem next?_letter {part : Numeral} (mantissa : part.isMantissa = true) {e : UInt8}
    (letter : e = 0x65 ∨ e = 0x45) : part.next? e = some .exponent := by
  have noDigit : isDigit e = false := by rcases letter with rfl | rfl <;> rfl
  have noPoint : e ≠ 0x2E := by rcases letter with rfl | rfl <;> decide
  cases part <;> simp_all [isMantissa, next?, next?.afterWhole]

theorem after?_exponent {bs : Bytes} (h : IsExponent bs) {part : Numeral}
    (mantissa : part.isMantissa = true) :
    ∃ part', part'.complete = true ∧ part.after? bs = some part' := by
  cases h with
  | none =>
    refine ⟨part, ?_, rfl⟩
    cases part <;> simp_all [isMantissa, complete]
  | @digits e d ds letter digit digits =>
    have noSign : ¬ (d = 0x2B ∨ d = 0x2D) := by
      rintro (rfl | rfl) <;> exact absurd digit (by decide)
    have first : Numeral.exponent.next? d = some .exponentDigits := by
      simp [next?, noSign, digit]
    refine ⟨.exponentDigits, rfl, ?_⟩
    rw [after?_cons, next?_letter mantissa letter, Option.bind_some, after?_cons, first]
    exact after?_digits rfl digits
  | @signed e s d ds letter sign digit digits =>
    have signed : Numeral.exponent.next? s = some .exponentSign := by simp [next?, sign]
    have first : Numeral.exponentSign.next? d = some .exponentDigits := by simp [next?, digit]
    refine ⟨.exponentDigits, rfl, ?_⟩
    rw [after?_cons, next?_letter mantissa letter, Option.bind_some, after?_cons, signed,
      Option.bind_some, after?_cons, first]
    exact after?_digits rfl digits

/-- A numeral without its sign is read the same from behind a sign. -/
theorem after?_unsigned {whole fraction exponent : Bytes} (hw : IsWhole whole)
    (hf : IsFraction fraction) (he : IsExponent exponent) :
    ∃ part, part.complete = true ∧
      Numeral.minus.after? (whole ++ (fraction ++ exponent)) = some part := by
  obtain ⟨p₁, whole₁, h₁⟩ := after?_whole hw
  obtain ⟨p₂, mantissa₂, h₂⟩ := after?_fraction hf whole₁
  obtain ⟨p₃, complete₃, h₃⟩ := after?_exponent he mantissa₂
  exact ⟨p₃, complete₃, by simp [after?_append, h₁, h₂, h₃]⟩

end Numeral

namespace Reader

theorem run_number {part part' : Numeral} {bs : Bytes} (h : part.after? bs = some part')
    (done : Bytes) (stack : List Frame) :
    (Reader.mk (.number part done) stack).run bs =
      some ⟨.number part' (bs.reverse ++ done), stack⟩ := by
  induction bs generalizing part done with
  | nil =>
    cases h
    rfl
  | cons b bs ih =>
    rw [Numeral.after?_cons] at h
    obtain ⟨p, first, rest⟩ := Option.bind_eq_some_iff.mp h
    simp [run_cons, step, first, ih rest]

/-- The modes in which a value may begin. -/
def Mode.begins : Mode → Bool
  | .value | .firstElement => true
  | _ => false

/-- The first byte of a value opens it, if it is no space and does not close an array. -/
theorem step_open {m : Mode} {b : UInt8} (begins : Mode.begins m = true)
    (space : isSpace b = false) (bracket : b ≠ 0x5D) (stack : List Frame) :
    (Reader.mk m stack).step b = openValue stack b := by
  cases m <;> simp_all [Mode.begins, step]

/-- A digit opens a numeral as if a sign stood before it. -/
theorem step_open_digit {m : Mode} {d : UInt8} (begins : Mode.begins m = true)
    (digit : isDigit d = true) {part : Numeral} (h : Numeral.minus.next? d = some part)
    (stack : List Frame) :
    (Reader.mk m stack).step d = some ⟨.number part [d], stack⟩ := by
  have other : ∀ b : UInt8, isDigit b = false → d ≠ b := by
    rintro b no rfl
    exact Bool.false_ne_true (no.symm.trans digit)
  have space : isSpace d = false := by
    simp [isSpace, other 0x20 rfl, other 0x09 rfl, other 0x0A rfl, other 0x0D rfl]
  rw [step_open begins space (other 0x5D rfl)]
  by_cases zero : d = 0x30
  · subst zero
    cases h
    rfl
  · simp only [Numeral.next?, zero, digit, if_false, if_true, Option.some.injEq] at h
    subst h
    simp [openValue, zero, digit, other 0x22 rfl, other 0x5B rfl, other 0x7B rfl, other 0x2D rfl]

theorem run_numeral {numeral : Bytes} (h : IsNumeral numeral) {m : Mode}
    (begins : Mode.begins m = true) (stack : List Frame) :
    ∃ part, part.complete = true ∧
      (Reader.mk m stack).run numeral = some ⟨.number part numeral.reverse, stack⟩ := by
  cases h with
  | minus hw hf he =>
    obtain ⟨part, complete, h⟩ := Numeral.after?_unsigned hw hf he
    refine ⟨part, complete, ?_⟩
    rw [run_cons, step_open begins rfl (by decide)]
    simpa [openValue] using run_number h [0x2D] stack
  | plain hw hf he =>
    obtain ⟨part, complete, h⟩ := Numeral.after?_unsigned hw hf he
    refine ⟨part, complete, ?_⟩
    obtain ⟨d, ds, cut, digit⟩ := hw.exists_cons
    subst cut
    rw [List.cons_append, Numeral.after?_cons] at h
    obtain ⟨p, first, rest⟩ := Option.bind_eq_some_iff.mp h
    rw [List.cons_append, run_cons, step_open_digit begins digit first]
    simpa using run_number rest [d] stack

/-! ## Values -/

/-- A value may stand on top of these. -/
def Awaits : List Frame → Prop
  | .object _ :: _ => False
  | _ => True

/-- The machine has read a value: it is past it, or at a numeral that may end here. -/
inductive Behind (v : Json) (stack : List Frame) : Reader → Prop where
  | past {r : Reader} : complete v stack = some r → Behind v stack r
  | numeral {part : Numeral} {done : Bytes} :
      part.complete = true → v = .number done.reverse → Behind v stack ⟨.number part done, stack⟩

/-- A completed value leaves the machine idle. -/
theorem idle_of_complete {v : Json} {stack : List Frame} {r : Reader}
    (h : complete v stack = some r) : Mode.idle r.mode = true := by
  match stack, h with
  | [], rfl => rfl
  | .array _ :: _, rfl => rfl
  | .member _ _ :: _, rfl => rfl

theorem exists_complete {stack : List Frame} (awaits : Awaits stack) (v : Json) :
    ∃ r, complete v stack = some r := by
  match stack, awaits with
  | [], _ => exact ⟨_, rfl⟩
  | .array _ :: _, _ => exact ⟨_, rfl⟩
  | .member _ _ :: _, _ => exact ⟨_, rfl⟩

/-- A space or a delimiter does not continue a numeral that may end. -/
theorem next?_eq_none {part : Numeral} (complete : part.complete = true) {b : UInt8}
    (h : isSpace b = true ∨ b = 0x2C ∨ b = 0x5D ∨ b = 0x7D) : part.next? b = none := by
  have cases_ : b = 0x20 ∨ b = 0x09 ∨ b = 0x0A ∨ b = 0x0D ∨ b = 0x2C ∨ b = 0x5D ∨ b = 0x7D := by
    simpa [isSpace, or_assoc] using h
  rcases cases_ with rfl | rfl | rfl | rfl | rfl | rfl | rfl <;> cases part <;>
    simp_all [Numeral.complete, Numeral.next?, Numeral.next?.afterWhole, isDigit]

namespace Behind

variable {v : Json} {stack : List Frame} {r : Reader}

theorem step_space (h : Behind v stack r) (awaits : Awaits stack) {b : UInt8}
    (space : isSpace b = true) : ∃ r', r.step b = some r' ∧ Behind v stack r' := by
  cases h with
  | past done => exact ⟨r, Reader.step_space (idle_of_complete done) space r.stack, .past done⟩
  | numeral complete value =>
    obtain ⟨r', done⟩ := exists_complete awaits v
    subst value
    refine ⟨r', ?_, .past done⟩
    simp [step, next?_eq_none complete (.inl space), complete, done, space]

theorem run_spaces (h : Behind v stack r) (awaits : Awaits stack) {bs : Bytes}
    (spaces : Spaces bs) : ∃ r', r.run bs = some r' ∧ Behind v stack r' := by
  induction bs generalizing r with
  | nil => exact ⟨r, rfl, h⟩
  | cons b bs ih =>
    obtain ⟨r₁, step₁, h₁⟩ := h.step_space awaits (spaces b List.mem_cons_self)
    obtain ⟨r₂, run₂, h₂⟩ := ih h₁ fun c hc => spaces c (List.mem_cons_of_mem _ hc)
    exact ⟨r₂, by rw [run_cons, step₁]; exact run₂, h₂⟩

/-- A delimiter is taken as behind the completed value. -/
theorem step_delimiter (h : Behind v stack r) {stack' : List Frame}
    (done : complete v stack = some ⟨.afterValue, stack'⟩) {b : UInt8}
    (delimiter : b = 0x2C ∨ b = 0x5D ∨ b = 0x7D) : r.step b = closeOrContinue stack' b := by
  have space : isSpace b = false := by rcases delimiter with rfl | rfl | rfl <;> rfl
  cases h with
  | past done' =>
    cases done.symm.trans done'
    simp [step, space]
  | numeral complete value =>
    subst value
    simp [step, next?_eq_none complete (.inr delimiter), complete, done, space]

theorem finish (h : Behind v [] r) : r.finish = some v := by
  cases h with
  | past done =>
    cases done
    rfl
  | numeral complete value =>
    subst value
    simp [Reader.finish, complete]

end Behind

/-- The rest of a word completes its value. -/
theorem run_word {rest : Bytes} (more : rest ≠ []) (v : Json) (stack : List Frame) :
    (Reader.mk (.word rest v) stack).run rest = complete v stack := by
  induction rest with
  | nil => exact absurd rfl more
  | cons c rest ih =>
    cases rest with
    | nil =>
      rw [run_singleton]
      simp [step]
    | cons d rest =>
      have next : (Reader.mk (.word (c :: d :: rest) v) stack).step c =
          some ⟨.word (d :: rest) v, stack⟩ := by simp [step]
      rw [run_step next]
      exact ih (List.cons_ne_nil _ _)

theorem close_array (done : List Json) (stack : List Frame) :
    closeOrContinue (.array done :: stack) 0x5D = complete (.array done.reverse) stack := rfl

theorem close_object (done : List (Bytes × Json)) (stack : List Frame) :
    closeOrContinue (.object done :: stack) 0x7D = complete (.object done.reverse) stack := rfl

/-! ## Texts -/

/-- What reading a text of a part leads to, wherever the part may stand. -/
def Reads : Part → Bytes → Prop
  | .tree v, bs => ∀ m stack, Mode.begins m = true → Awaits stack →
      ∃ r, (Reader.mk m stack).run bs = some r ∧ Behind v stack r
  | .elements es, bs => ∀ m done stack, Mode.begins m = true →
      ∃ r, (Reader.mk m (.array done :: stack)).run bs = some r ∧
        ∀ b, b = 0x2C ∨ b = 0x5D →
          r.step b = closeOrContinue (.array (es.reverse ++ done) :: stack) b
  | .members ms, bs => ∀ m done stack, m = .firstKey ∨ m = .key →
      ∃ r, (Reader.mk m (.object done :: stack)).run bs = some r ∧
        ∀ b, b = 0x2C ∨ b = 0x7D →
          r.step b = closeOrContinue (.object (ms.reverse ++ done) :: stack) b

/-- A value whose last byte completes it. -/
theorem reads_of_complete {v : Json} {bs : Bytes}
    (h : ∀ m stack, Mode.begins m = true → (Reader.mk m stack).run bs = complete v stack) :
    Reads (.tree v) bs := by
  intro m stack begins awaits
  obtain ⟨r, done⟩ := exists_complete awaits v
  exact ⟨r, (h m stack begins).trans done, .past done⟩

theorem reads_word {b : UInt8} {rest : Bytes} {v : Json} (space : isSpace b = false)
    (bracket : b ≠ 0x5D) (opens : ∀ stack, openValue stack b = some ⟨.word rest v, stack⟩)
    (more : rest ≠ []) : Reads (.tree v) (b :: rest) := by
  apply reads_of_complete
  intro m stack begins
  rw [run_step ((step_open begins space bracket stack).trans (opens stack)), run_word more]

theorem reads_of_text {part : Part} {bs : Bytes} (h : Text part bs) : Reads part bs := by
  induction h with
  | @spaced j before bs after hb _ ha ih =>
    intro m stack begins awaits
    have idle : Mode.idle m = true := by cases m <;> simp_all [Mode.begins, Mode.idle]
    obtain ⟨r, run, behind⟩ := ih m stack begins awaits
    obtain ⟨r', run', behind'⟩ := behind.run_spaces awaits ha
    refine ⟨r', ?_, behind'⟩
    rw [List.append_assoc, run_then (run_spaces idle hb stack), run_then run, run']
  | null => exact reads_word rfl (by decide) (fun _ => rfl) (List.cons_ne_nil _ _)
  | yes => exact reads_word rfl (by decide) (fun _ => rfl) (List.cons_ne_nil _ _)
  | no => exact reads_word rfl (by decide) (fun _ => rfl) (List.cons_ne_nil _ _)
  | number numeral =>
    intro m stack begins _
    obtain ⟨part, complete, run⟩ := run_numeral numeral begins stack
    -- More digits could come, so the value is not on the stack yet.
    exact ⟨_, run, .numeral complete (by rw [List.reverse_reverse])⟩
  | @string literal ok =>
    apply reads_of_complete
    intro m stack begins
    have opened := step_open begins rfl (b := 0x22) (by decide) stack
    rw [quoted, List.cons_append, run_step opened, run_then (run_literal ok .value [] stack),
      run_singleton, List.append_nil, step_stringEnd, List.reverse_reverse]
  | @emptyArray inside spaces =>
    apply reads_of_complete
    intro m stack begins
    have opened := step_open begins rfl (b := 0x5B) (by decide) stack
    rw [List.cons_append, run_step opened, run_then (run_spaces rfl spaces _), run_singleton]
    rfl
  | @array es inside _ ih =>
    apply reads_of_complete
    intro m stack begins
    obtain ⟨r, run, ends⟩ := ih .firstElement [] stack rfl
    have opened := step_open begins rfl (b := 0x5B) (by decide) stack
    rw [List.cons_append, run_step opened, run_then run, run_singleton, ends 0x5D (.inr rfl),
      List.append_nil, close_array, List.reverse_reverse]
  | @emptyObject inside spaces =>
    apply reads_of_complete
    intro m stack begins
    have opened := step_open begins rfl (b := 0x7B) (by decide) stack
    rw [List.cons_append, run_step opened, run_then (run_spaces rfl spaces _), run_singleton]
    rfl
  | @object ms inside _ ih =>
    apply reads_of_complete
    intro m stack begins
    obtain ⟨r, run, ends⟩ := ih .firstKey [] stack (.inl rfl)
    have opened := step_open begins rfl (b := 0x7B) (by decide) stack
    rw [List.cons_append, run_step opened, run_then run, run_singleton, ends 0x7D (.inr rfl),
      List.append_nil, close_object, List.reverse_reverse]
  | lastElement _ ih =>
    intro m done stack begins
    obtain ⟨r, run, behind⟩ := ih m (.array done :: stack) begins trivial
    refine ⟨r, run, ?_⟩
    intro b delimiter
    exact behind.step_delimiter rfl (delimiter.imp_right .inl)
  | @element e es bs rest _ _ ih ihRest =>
    intro m done stack begins
    obtain ⟨r, run, behind⟩ := ih m (.array done :: stack) begins trivial
    -- The elements are kept in reverse, and the rest is read on top of this one.
    obtain ⟨r', run', ends⟩ := ihRest .value (e :: done) stack rfl
    have comma : r.step 0x2C = some ⟨.value, .array (e :: done) :: stack⟩ :=
      behind.step_delimiter rfl (.inl rfl)
    refine ⟨r', by rw [run_then run, run_step comma, run'], ?_⟩
    rw [List.reverse_cons, List.append_assoc]
    exact ends
  | @lastMember key v before between bs hb ok hm _ ih =>
    intro m done stack place
    obtain ⟨r, run, behind⟩ := ih .value (.member done key :: stack) rfl trivial
    have idle : Mode.idle m = true := by rcases place with rfl | rfl <;> rfl
    -- A key comes after the opening brace or after a comma, and is opened alike in both places.
    have quote : (Reader.mk m (.object done :: stack)).step 0x22 =
        some ⟨.string .key .none [], .object done :: stack⟩ := by
      rcases place with rfl | rfl <;> rfl
    refine ⟨r, ?_, ?_⟩
    · have colon : (Reader.mk (.colon key) (.object done :: stack)).step 0x3A =
          some ⟨.value, .member done key :: stack⟩ := rfl
      have keyEnd := step_keyEnd key.reverse (.object done :: stack)
      rw [List.reverse_reverse] at keyEnd
      rw [List.append_assoc, List.append_assoc, run_then (run_spaces idle hb _), quoted,
        List.append_assoc, List.cons_append, run_step quote,
        run_then (run_literal ok .key [] _), List.append_nil, List.singleton_append,
        run_step keyEnd, run_then (run_spaces rfl hm _), run_step colon, run]
    · intro b delimiter
      exact behind.step_delimiter rfl (delimiter.imp_right .inr)
  | @member m ms bs rest _ _ ih ihRest =>
    intro mode done stack place
    obtain ⟨r, run, ends⟩ := ih mode done stack place
    obtain ⟨r', run', ends'⟩ := ihRest .key (m :: done) stack (.inr rfl)
    have comma : r.step 0x2C = some ⟨.key, .object (m :: done) :: stack⟩ :=
      ends 0x2C (.inl rfl)
    refine ⟨r', by rw [run_then run, run_step comma, run'], ?_⟩
    rw [List.reverse_cons, List.append_assoc]
    exact ends'

end Reader

/-- The reader finds the tree of every text. -/
theorem read?_of_text {tree : Json} {bytes : Bytes} (h : Text (.tree tree) bytes) :
    read? bytes = some tree := by
  obtain ⟨r, run, behind⟩ := Reader.reads_of_text h .value [] rfl trivial
  rw [read?, Reader.start, run, Option.bind_some, behind.finish]

end Circulation.Json
