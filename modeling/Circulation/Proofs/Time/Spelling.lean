/- # Circulation.Proofs.Time.Spelling -- the texts of an instant

An instant has many texts: any local date and time with any offset below a day that together come to
it, blanks between the parts, numbers with one digit or two, a fraction longer than it need be.
`Spells` says part by part what such a text is, and every such text is read as the instant. The form
that is written, in coordinated universal time, is one of them.
-/
import Mathlib.Tactic.SplitIfs
import Circulation.Proofs.Decimal
import Circulation.Proofs.Time.Calendar
import Circulation.Time.Timestamp

namespace Circulation.Time.Instant

/-! ## The parts of a text -/

/-- Any number of blanks. -/
def Blanks (cs : List Char) : Prop := ∀ c ∈ cs, Text.isBlank c = true

/-- A number of one or two digits. -/
def NumberText (n : Nat) (cs : List Char) : Prop := Decimal.value? cs = some n ∧ cs.length ≤ 2

/-- A year of up to four digits, or of any number of digits behind a sign. -/
inductive YearText : Int → List Char → Prop where
  | plain {n : Nat} {ds : List Char} :
      Decimal.value? ds = some n → ds.length ≤ 4 → YearText n ds
  | plus {n : Nat} {ds : List Char} : Decimal.value? ds = some n → YearText n ('+' :: ds)
  | minus {n : Nat} {ds : List Char} : Decimal.value? ds = some n → YearText (-(n : Int)) ('-' :: ds)

/-- The nanoseconds of a fraction, or of none. The first nine digits count. -/
inductive FractionText : Nat → List Char → Prop where
  | none : FractionText 0 []
  | short {nanos n : Nat} {ds : List Char} :
      Decimal.value? ds = some n → ds.length ≤ 9 → nanos = n * 10 ^ (9 - ds.length) →
      FractionText nanos ('.' :: ds)
  | long {n : Nat} {ds more : List Char} :
      Decimal.value? ds = some n → ds.length = 9 → (∀ c ∈ more, Decimal.isDigit c = true) →
      FractionText n ('.' :: (ds ++ more))

/-- Hours and minutes of an offset, in seconds: two digits each, with any colons and blanks between
them. -/
inductive HoursAndMinutes : Nat → List Char → Prop where
  | mk {hours minutes : Nat} {hs between ms : List Char} :
      Decimal.value? hs = some hours → hs.length = 2 → hours < 24 →
      (∀ c ∈ between, c = ':' ∨ Text.isBlank c = true) →
      Decimal.value? ms = some minutes → ms.length = 2 → minutes < 60 →
      HoursAndMinutes (hours * 3600 + minutes * 60) (hs ++ (between ++ ms))

/-- The offset of local time, in seconds: none, or east or west of it. -/
inductive OffsetText : Int → List Char → Prop where
  | zulu {c : Char} : c = 'Z' ∨ c = 'z' → OffsetText 0 [c]
  | utc {u t c : Char} :
      u = 'U' ∨ u = 'u' → t = 'T' ∨ t = 't' → c = 'C' ∨ c = 'c' → OffsetText 0 [u, t, c]
  | east {seconds : Nat} {cs : List Char} :
      HoursAndMinutes seconds cs → OffsetText seconds ('+' :: cs)
  | west {seconds : Nat} {sign : Char} {cs : List Char} :
      sign = '-' ∨ sign = '\u2212' → HoursAndMinutes seconds cs →
      OffsetText (-(seconds : Int)) (sign :: cs)

/-! ## The texts of an instant -/

/-- A local date and time of day, with the offset of that place. -/
structure LocalTime where
  date : Date
  hour : Nat
  minute : Nat
  second : Nat
  nanos : Nat
  offset : Int

/-- The local time exists and comes to the instant. Second 60 is a leap second. -/
structure LocalTime.Denotes (l : LocalTime) (t : Instant) : Prop where
  date : l.date.isValid = true
  year : -262143 ≤ l.date.year ∧ l.date.year ≤ 262142
  hour : l.hour < 24
  minute : l.minute < 60
  second : l.second ≤ 60
  seconds : t.seconds = l.date.dayNumber * 86400 + l.hour * 3600 + l.minute * 60 +
    (if l.second = 60 then 59 else l.second : Nat) - l.offset
  nanos : t.nanos = if l.second = 60 then l.nanos + nanosPerSecond else l.nanos

/-- Year, month and day with hyphens between them. -/
inductive DateText (d : Date) : List Char → Prop where
  | mk {w₁ w₂ w₃ w₄ w₅ year month day : List Char} :
      Blanks w₁ → YearText d.year year → Blanks w₂ →
      Blanks w₃ → NumberText d.month month → Blanks w₄ →
      Blanks w₅ → NumberText d.day day →
      DateText d (w₁ ++ year ++ w₂ ++ '-' :: (w₃ ++ month ++ w₄ ++ '-' :: (w₅ ++ day)))

/-- Hour, minute and second with colons between them, and the fraction of the second. -/
inductive ClockText (l : LocalTime) : List Char → Prop where
  | mk {w₁ w₂ w₃ w₄ w₅ hour minute second fraction : List Char} :
      Blanks w₁ → NumberText l.hour hour → Blanks w₂ →
      Blanks w₃ → NumberText l.minute minute → Blanks w₄ →
      Blanks w₅ → NumberText l.second second → FractionText l.nanos fraction →
      ClockText l (w₁ ++ hour ++ w₂ ++ ':' :: (w₃ ++ minute ++ w₄ ++ ':' ::
        (w₅ ++ second ++ fraction)))

/-- The characters are a text of the instant. -/
inductive Spells (t : Instant) : List Char → Prop where
  | mk {l : LocalTime} {date clock between offset after : List Char} {separator : Char} :
      l.Denotes t → DateText l.date date →
      separator = 'T' ∨ separator = 't' ∨ separator = ' ' →
      ClockText l clock → Blanks between → OffsetText l.offset offset → Blanks after →
      Spells t (date ++ separator :: (clock ++ between ++ offset ++ after))

/-! ## Where a part stops -/

/-- The characters do not begin with one of this kind. -/
def Stops (kind : Char → Bool) (cs : List Char) : Prop := ∀ c, cs.head? = some c → kind c = false

theorem Stops.cons {kind : Char → Bool} {c : Char} {cs : List Char} (h : kind c = false) :
    Stops kind (c :: cs) := by
  intro d hd
  cases hd
  exact h

theorem Stops.append {kind : Char → Bool} {a b : List Char} (ha : ∀ c ∈ a, kind c = false)
    (hb : Stops kind b) : Stops kind (a ++ b) := by
  cases a with
  | nil => exact hb
  | cons c a => exact .cons (ha c List.mem_cons_self)

theorem dropWhile_of_stops {kind : Char → Bool} {cs : List Char} (h : Stops kind cs) :
    cs.dropWhile kind = cs := by
  cases cs with
  | nil => rfl
  | cons c cs => rw [List.dropWhile_cons, h c rfl]; rfl

theorem takeWhile_of_stops {kind : Char → Bool} {cs : List Char} (h : Stops kind cs) :
    cs.takeWhile kind = [] := by
  cases cs with
  | nil => rfl
  | cons c cs => rw [List.takeWhile_cons, h c rfl]; rfl

theorem Stops.take {kind : Char → Bool} {cs : List Char} (h : Stops kind cs) (n : Nat) :
    Stops kind (cs.take n) := by
  cases n with
  | zero =>
    intro c hc
    cases hc
  | succ n =>
    cases cs with
    | nil => exact h
    | cons c cs => exact .cons (h c rfl)

theorem isDigit_of_isBlank {c : Char} (h : Text.isBlank c = true) : Decimal.isDigit c = false := by
  rw [← Bool.not_eq_true, Decimal.isDigit_iff]
  simp only [Text.isBlank, Bool.or_eq_true, Bool.and_eq_true, decide_eq_true_eq,
    beq_iff_eq] at h
  omega

theorem isBlank_of_isDigit {c : Char} (h : Decimal.isDigit c = true) : Text.isBlank c = false := by
  rw [← Bool.not_eq_true]
  intro blank
  cases h.symm.trans (isDigit_of_isBlank blank)

theorem not_point_of_isBlank {c : Char} (h : Text.isBlank c = true) : (c == '.') = false := by
  rw [beq_eq_false_iff_ne]
  rintro rfl
  cases h

/-- Blanks and then a character that is no digit. -/
theorem Blanks.stops {w rest : List Char} {c : Char} (blanks : Blanks w)
    (h : Decimal.isDigit c = false) : Stops Decimal.isDigit (w ++ c :: rest) :=
  .append (fun d hd => isDigit_of_isBlank (blanks d hd)) (.cons h)

theorem dropBlank_append {w cs : List Char} (blanks : Blanks w) (h : Stops Text.isBlank cs) :
    Text.dropBlank (w ++ cs) = cs := by
  rw [Text.dropBlank, List.dropWhile_append_of_pos blanks, dropWhile_of_stops h]

theorem dropBlank_blanks {w : List Char} (blanks : Blanks w) : Text.dropBlank w = [] := by
  have stops : Stops Text.isBlank [] := by
    intro c hc
    cases hc
  rw [← List.append_nil w, dropBlank_append blanks stops]

/-! ## Reading the parts -/

theorem leadingDigits_append {most : Nat} {ds rest : List Char}
    (digits : ∀ c ∈ ds, Decimal.isDigit c = true) (short : ds.length ≤ most)
    (h : Stops Decimal.isDigit rest) : leadingDigits most (ds ++ rest) = ds := by
  rw [leadingDigits, List.take_append, List.take_of_length_le short,
    List.takeWhile_append_of_pos digits, takeWhile_of_stops (h.take _), List.append_nil]

theorem number?_append {ds rest : List Char} {most n : Nat} (value : Decimal.value? ds = some n)
    (short : ds.length ≤ most) (h : Stops Decimal.isDigit rest) :
    number? most (ds ++ rest) = some (n, rest) := by
  have digits := Decimal.isDigit_of_value? value
  simp [number?, leadingDigits_append digits short h, value]

/-- A run of digits does not begin with a blank. -/
theorem stops_of_value? {ds : List Char} {n : Nat} (value : Decimal.value? ds = some n)
    (rest : List Char) : Stops Text.isBlank (ds ++ rest) := by
  cases ds with
  | nil => cases value
  | cons d ds => exact .cons (isBlank_of_isDigit (Decimal.isDigit_of_value? value d List.mem_cons_self))

theorem number?_dropBlank {w ds rest : List Char} {n : Nat} (blanks : Blanks w)
    (number : NumberText n ds) (h : Stops Decimal.isDigit rest) :
    number? 2 (Text.dropBlank (w ++ (ds ++ rest))) = some (n, rest) := by
  rw [dropBlank_append blanks (stops_of_value? number.1 rest)]
  exact number?_append number.1 number.2 h

theorem expect?_dropBlank {w rest : List Char} {c : Char} (blanks : Blanks w)
    (h : Text.isBlank c = false) : expect? c (Text.dropBlank (w ++ c :: rest)) = some rest := by
  rw [dropBlank_append blanks (.cons h), expect?, if_pos rfl]

theorem year?_dropBlank {w ys rest : List Char} {y : Int} (blanks : Blanks w)
    (year : YearText y ys) (h : Stops Decimal.isDigit rest) :
    year? (Text.dropBlank (w ++ (ys ++ rest))) = some (y, rest) := by
  cases year with
  | @plain n _ value short =>
    rw [dropBlank_append blanks (stops_of_value? value rest)]
    cases ys with
    | nil => cases value
    | cons d ds =>
      have digit := Decimal.isDigit_of_value? value d List.mem_cons_self
      have noPlus : d ≠ '+' := by
        rintro rfl
        cases digit
      have noMinus : d ≠ '-' := by
        rintro rfl
        cases digit
      have read := number?_append value short h
      rw [List.cons_append] at read ⊢
      unfold year?
      split
      next same => exact absurd (List.cons.inj same).1 noPlus
      next same => exact absurd (List.cons.inj same).1 noMinus
      next =>
        rw [read]
        rfl
  | @plus n ds value =>
    have read : number? (ds ++ rest).length (ds ++ rest) = some (n, rest) :=
      number?_append value (by simp) h
    rw [List.cons_append, dropBlank_append blanks (.cons rfl), year?, read]
    rfl
  | @minus n ds value =>
    have read : number? (ds ++ rest).length (ds ++ rest) = some (n, rest) :=
      number?_append value (by simp) h
    rw [List.cons_append, dropBlank_append blanks (.cons rfl), year?, read]
    rfl

theorem separator?_cons {c : Char} (h : c = 'T' ∨ c = 't' ∨ c = ' ') (rest : List Char) :
    separator? (c :: rest) = some rest := if_pos h

/-- A fraction whose digits are known. -/
theorem fraction?_of_run {cs ds : List Char} {n : Nat} (run : leadingDigits cs.length cs = ds)
    (value : Decimal.value? (ds.take 9) = some n) :
    fraction? ('.' :: cs) = some (n * 10 ^ (9 - (ds.take 9).length), cs.drop ds.length) := by
  unfold fraction?
  simp only [run, value]
  rfl

theorem fraction?_append {fs rest : List Char} {n : Nat} (fraction : FractionText n fs)
    (digit : Stops Decimal.isDigit rest) (point : Stops (· == '.') rest) :
    fraction? (fs ++ rest) = some (n, rest) := by
  cases fraction with
  | none =>
    unfold fraction?
    split
    next same =>
      rw [List.nil_append] at same
      subst same
      cases point '.' rfl
    next => rfl
  | @short _ n ds value short worth =>
    have digits := Decimal.isDigit_of_value? value
    have run : leadingDigits (ds ++ rest).length (ds ++ rest) = ds :=
      leadingDigits_append digits (by simp) digit
    have kept : ds.take 9 = ds := List.take_of_length_le short
    rw [List.cons_append, fraction?_of_run run (by rw [kept]; exact value), kept, List.drop_left,
      worth]
  | @long n ds more value exact_ digits' =>
    have digits : ∀ c ∈ ds ++ more, Decimal.isDigit c = true := by
      intro c hc
      rcases List.mem_append.mp hc with hc | hc
      · exact Decimal.isDigit_of_value? value c hc
      · exact digits' c hc
    have run : leadingDigits (ds ++ more ++ rest).length (ds ++ more ++ rest) = ds ++ more :=
      leadingDigits_append digits (by simp) digit
    have kept : (ds ++ more).take 9 = ds := by rw [← exact_, List.take_left]
    rw [List.cons_append, fraction?_of_run run (by rw [kept]; exact value), kept, List.drop_left,
      exact_, Nat.sub_self, Nat.pow_zero, Nat.mul_one]

/-- A numeral of two digits is read as two digits. -/
theorem twoDigits?_append {ds rest : List Char} {n : Nat} (value : Decimal.value? ds = some n)
    (two : ds.length = 2) : twoDigits? (ds ++ rest) = some (n, rest) := by
  match ds, two with
  | [a, b], _ =>
    have digits := Decimal.isDigit_of_value? value
    obtain ⟨x, ha⟩ := Option.isSome_iff_exists.mp (digits a (by simp))
    obtain ⟨y, hb⟩ := Option.isSome_iff_exists.mp (digits b (by simp))
    have worth : Decimal.value? [a, b] = some (x * 10 + y) := by
      simp [Decimal.value?, Decimal.shiftIn, ha, hb]
    cases worth.symm.trans value
    simp [twoDigits?, ha, hb]

theorem hoursAndMinutes?_append {cs rest : List Char} {seconds : Nat}
    (h : HoursAndMinutes seconds cs) : hoursAndMinutes? (cs ++ rest) = some (seconds, rest) := by
  cases h with
  | @mk hours minutes hs between ms hour twoH hourOk betweenOk minute twoM minuteOk =>
    have skip : (between ++ (ms ++ rest)).dropWhile (fun c => c = ':' || Text.isBlank c) =
        ms ++ rest := by
      have first : Stops (fun c => c = ':' || Text.isBlank c) (ms ++ rest) := by
        cases ms with
        | nil => cases minute
        | cons m ms =>
          have digit := Decimal.isDigit_of_value? minute m List.mem_cons_self
          have noColon : m ≠ ':' := by
            rintro rfl
            cases digit
          exact .cons (by simp [noColon, isBlank_of_isDigit digit])
      rw [List.dropWhile_append_of_pos _, dropWhile_of_stops first]
      intro c hc
      simpa using betweenOk c hc
    have read : hoursAndMinutes? (hs ++ (between ++ (ms ++ rest))) =
        some (hours * 3600 + minutes * 60, rest) := by
      simp [hoursAndMinutes?, twoDigits?_append hour twoH, skip, twoDigits?_append minute twoM,
        hourOk, minuteOk]
    simpa using read

/-- The letters and signs with which an offset may begin. -/
def offsetHeads : List Char := ['Z', 'z', 'U', 'u', '+', '-', '\u2212']

theorem OffsetText.head {o : Int} {os : List Char} (h : OffsetText o os) :
    ∃ c cs, os = c :: cs ∧ c ∈ offsetHeads := by
  cases h with
  | zulu letter => exact ⟨_, _, rfl, by rcases letter with rfl | rfl <;> decide⟩
  | utc letter _ _ => exact ⟨_, _, rfl, by rcases letter with rfl | rfl <;> decide⟩
  | east _ => exact ⟨_, _, rfl, by decide⟩
  | west sign _ => exact ⟨_, _, rfl, by rcases sign with rfl | rfl <;> decide⟩

/-- An offset is whole minutes. -/
theorem OffsetText.minutes {o : Int} {os : List Char} (h : OffsetText o os) : o % 60 = 0 := by
  have whole : ∀ {seconds : Nat} {cs : List Char}, HoursAndMinutes seconds cs →
      seconds % 60 = 0 := by
    rintro seconds cs ⟨⟩
    omega
  cases h with
  | zulu _ => rfl
  | utc _ _ _ => rfl
  | east h =>
    have := whole h
    omega
  | west _ h =>
    have := whole h
    omega

theorem OffsetText.stops {kind : Char → Bool} (no : offsetHeads.any kind = false) {o : Int}
    {os : List Char} (h : OffsetText o os) (rest : List Char) : Stops kind (os ++ rest) := by
  obtain ⟨c, cs, rfl, mem⟩ := h.head
  exact .cons (by simpa using List.any_eq_false.mp no c mem)

theorem offset?_append {os rest : List Char} {o : Int} (offset : OffsetText o os) :
    offset? (os ++ rest) = some (o, rest) := by
  cases offset with
  | zulu letter => exact if_pos letter
  | @utc u t c hu ht hc =>
    have read : utc? (u :: t :: c :: rest) = some rest := if_pos ⟨hu, ht, hc⟩
    rcases hu with rfl | rfl
    · simp [offset?, read]
    · simp [offset?, read]
  | @east seconds cs h => simp [offset?, hoursAndMinutes?_append h]
  | @west seconds sign cs signs h =>
    rcases signs with rfl | rfl
    · simp [offset?, hoursAndMinutes?_append h]
    · simp [offset?, hoursAndMinutes?_append h]

theorem offset?_dropBlank {w os rest : List Char} {o : Int} (blanks : Blanks w)
    (offset : OffsetText o os) :
    offset? (Text.dropBlank (w ++ (os ++ rest))) = some (o, rest) := by
  rw [dropBlank_append blanks (offset.stops rfl rest), offset?_append offset]

/-! ## Reading a text -/

theorem FractionText.stops {n : Nat} {fs rest : List Char} (h : FractionText n fs)
    (digit : Stops Decimal.isDigit rest) : Stops Decimal.isDigit (fs ++ rest) := by
  cases h with
  | none => exact digit
  | short _ _ _ => exact .cons rfl
  | long _ _ _ => exact .cons rfl

/-- A local time that comes to the instant is found to. -/
theorem LocalTime.Denotes.ofLocal? {l : LocalTime} {t : Instant} (h : l.Denotes t) :
    Instant.ofLocal? l.date l.hour l.minute l.second l.nanos l.offset = some t := by
  have time : l.hour < 24 ∧ l.minute < 60 ∧ l.second ≤ 60 := ⟨h.hour, h.minute, h.second⟩
  have self := ofUnix?_self t
  rw [h.seconds, h.nanos] at self
  rw [Instant.ofLocal?, if_pos time]
  exact self

theorem LocalTime.Denotes.checkedDate? {l : LocalTime} {t : Instant} (h : l.Denotes t) :
    Instant.checkedDate? l.date.year l.date.month l.date.day = some l.date :=
  if_pos ⟨h.year.1, h.year.2, h.date⟩

/-- Every text of an instant is read as it. -/
theorem Spells.ofChars? {t : Instant} {cs : List Char} (h : Spells t cs) :
    Instant.ofChars? cs = some t := by
  cases h with
  | @mk l date clock between offset after separator denotes dateOk separatorOk clockOk betweenOk
      offsetOk afterOk =>
  cases dateOk with
  | @mk w₁ w₂ w₃ w₄ w₅ year month day b₁ yearOk b₂ b₃ monthOk b₄ b₅ dayOk =>
  cases clockOk with
  | @mk v₁ v₂ v₃ v₄ v₅ hour minute second fraction c₁ hourOk c₂ c₃ minuteOk c₄ c₅ secondOk
      fractionOk =>
  have hyphen : Text.isBlank '-' = false := rfl
  have colon : Text.isBlank ':' = false := rfl
  have hyphenNoDigit : Decimal.isDigit '-' = false := rfl
  have colonNoDigit : Decimal.isDigit ':' = false := rfl
  have letter : Decimal.isDigit separator = false := by
    rcases separatorOk with rfl | rfl | rfl <;> rfl
  have behind : ∀ {kind : Char → Bool}, (∀ c, Text.isBlank c = true → kind c = false) →
      offsetHeads.any kind = false → Stops kind (between ++ (offset ++ after)) := fun blank no =>
    .append (fun c hc => blank c (betweenOk c hc)) (offsetOk.stops no after)
  have noDigit : Stops Decimal.isDigit (between ++ (offset ++ after)) :=
    behind (fun _ => isDigit_of_isBlank) rfl
  have noPoint : Stops (· == '.') (between ++ (offset ++ after)) :=
    behind (fun _ => not_point_of_isBlank) rfl
  -- To the right of every part stands the rest of the text, as the reader finds it.
  simp only [List.append_assoc, List.cons_append]
  have reads {α β : Type} {x : Option α} {a : α} {f : α → Option β} {r : β} (now : x = some a)
      (later : f a = some r) : (x >>= f) = some r :=
    Option.bind_eq_some_iff.mpr ⟨a, now, later⟩
  unfold Instant.ofChars?
  refine reads (year?_dropBlank b₁ yearOk (b₂.stops hyphenNoDigit)) ?_
  refine reads (expect?_dropBlank b₂ hyphen) ?_
  refine reads (number?_dropBlank b₃ monthOk (b₄.stops hyphenNoDigit)) ?_
  refine reads (expect?_dropBlank b₄ hyphen) ?_
  refine reads (number?_dropBlank b₅ dayOk (.cons letter)) ?_
  refine reads (separator?_cons separatorOk _) ?_
  refine reads (number?_dropBlank c₁ hourOk (c₂.stops colonNoDigit)) ?_
  refine reads (expect?_dropBlank c₂ colon) ?_
  refine reads (number?_dropBlank c₃ minuteOk (c₄.stops colonNoDigit)) ?_
  refine reads (expect?_dropBlank c₄ colon) ?_
  refine reads (number?_dropBlank c₅ secondOk (fractionOk.stops noDigit)) ?_
  refine reads (fraction?_append fractionOk noDigit noPoint) ?_
  refine reads (offset?_dropBlank betweenOk offsetOk) ?_
  simp only [dropBlank_blanks afterOk, List.isEmpty_nil, if_true]
  exact reads denotes.checkedDate? denotes.ofLocal?

/-! ## The text that is written -/

theorem Blanks.nil : Blanks [] := by
  intro c hc
  cases hc

theorem numberText_padded {n : Nat} (h : n < 100) : NumberText n (Decimal.padded 2 n) :=
  ⟨Decimal.value?_padded 2 n, Nat.le_of_eq (Decimal.length_padded (by decide) h)⟩

theorem yearText_chars (d : Date) : YearText d.year (Date.chars.year d) := by
  have value := Decimal.value?_padded 4 d.year.natAbs
  unfold Date.chars.year
  split
  next four =>
    have short : (Decimal.padded 4 d.year.natAbs).length = 4 :=
      Decimal.length_padded (by decide) (by omega)
    have year := YearText.plain value (Nat.le_of_eq short)
    rwa [show (d.year.natAbs : Int) = d.year by omega] at year
  next =>
    split
    next negative =>
      have year := YearText.minus value
      rwa [show -(d.year.natAbs : Int) = d.year by omega] at year
    next =>
      have year := YearText.plus value
      rwa [show (d.year.natAbs : Int) = d.year by omega] at year

theorem dateText_chars {d : Date} (h : d.isValid = true) : DateText d d.chars := by
  have bounds := Date.le_of_isValid h
  have month := numberText_padded (n := d.month) (by omega)
  have day := numberText_padded (n := d.day) (by omega)
  simpa [Date.chars] using
    DateText.mk .nil (yearText_chars d) .nil .nil month .nil .nil day

theorem fractionText_fractionChars {nanos : Nat} (h : nanos < nanosPerSecond) :
    FractionText nanos (fractionChars nanos) := by
  have bound : nanos < 1000000000 := h
  have groups : ∀ places n : Nat, 0 < places → places ≤ 9 → n < 10 ^ places →
      nanos = n * 10 ^ (9 - places) → FractionText nanos ('.' :: Decimal.padded places n) := by
    intro places n some few small same
    have length := Decimal.length_padded some small
    exact .short (Decimal.value?_padded places n) (by omega) (by rw [length]; exact same)
  unfold fractionChars
  split_ifs with none milli micro
  · subst none
    exact .none
  · exact groups 3 _ (by decide) (by decide) (by omega) (by omega)
  · exact groups 6 _ (by decide) (by decide) (by omega) (by omega)
  · exact groups 9 _ (by decide) (by decide) bound (by omega)

/-- The seconds of the local day that are over, at a place with this offset. -/
def localSecond (t : Instant) (offset : Int) : Nat := ((t.seconds + offset) % 86400).toNat

/-- The local time of an instant at a place with this offset. -/
def localAt (t : Instant) (offset : Int) : LocalTime where
  date := Date.ofDayNumber ((t.seconds + offset) / 86400)
  hour := t.localSecond offset / 3600
  minute := t.localSecond offset / 60 % 60
  second := t.localSecond offset % 60 + if t.isLeap then 1 else 0
  nanos := t.fraction
  offset := offset

theorem localSecond_eq (t : Instant) (offset : Int) :
    (t.localSecond offset : Int) = (t.seconds + offset) % 86400 := by
  unfold localSecond
  omega

/-- A leap second follows the last second of a minute. -/
theorem seconds_of_isLeap {t : Instant} (h : t.isLeap = true) : t.seconds % 60 = 59 := by
  have := of_decide_eq_true h
  rcases t.inSecond with plain | leap
  · omega
  · exact leap.2

/-- So it does at every place whose offset is whole minutes. -/
theorem localAt_second (t : Instant) {offset : Int} (minutes : offset % 60 = 0) :
    (t.localAt offset).second = if t.isLeap then 60 else t.localSecond offset % 60 := by
  have clock := localSecond_eq t offset
  unfold localAt
  by_cases leap : t.isLeap = true
  · have last := seconds_of_isLeap leap
    simp only [if_pos leap]
    omega
  · simp only [if_neg leap, Nat.add_zero]

theorem nanos_eq (t : Instant) :
    t.nanos = if t.isLeap then t.fraction + nanosPerSecond else t.fraction := by
  have inSecond := t.inSecond
  unfold isLeap fraction
  simp only [decide_eq_true_eq]
  unfold nanosPerSecond at inSecond ⊢
  split <;> omega

/-- The local time at any offset of whole minutes comes to the instant, if the local date is in
range. -/
theorem localAt_denotes (t : Instant) {offset : Int} (minutes : offset % 60 = 0)
    (year : -262143 ≤ (t.localAt offset).date.year ∧ (t.localAt offset).date.year ≤ 262142) :
    (t.localAt offset).Denotes t := by
  have day : (t.localAt offset).date.dayNumber = (t.seconds + offset) / 86400 :=
    Date.dayNumber_ofDayNumber _
  have clock := localSecond_eq t offset
  have second := localAt_second t minutes
  have below : t.localSecond offset % 60 < 60 := Nat.mod_lt _ (by decide)
  constructor
  case date => exact Date.isValid_ofDayNumber _
  case year => exact year
  case hour =>
    show t.localSecond offset / 3600 < 24
    omega
  case minute => exact Nat.mod_lt _ (by decide)
  case second =>
    rw [second]
    split <;> omega
  case seconds =>
    show t.seconds = (t.localAt offset).date.dayNumber * 86400 +
      (t.localSecond offset / 3600 : Nat) * 3600 + (t.localSecond offset / 60 % 60 : Nat) * 60 +
      (if (t.localAt offset).second = 60 then 59 else (t.localAt offset).second : Nat) - offset
    rw [second, day]
    by_cases leap : t.isLeap = true
    · have last := seconds_of_isLeap leap
      rw [if_pos leap, if_pos rfl]
      omega
    · rw [if_neg leap, if_neg (Nat.ne_of_lt below)]
      omega
  case nanos =>
    rw [second]
    by_cases leap : t.isLeap = true
    · rw [if_pos leap, if_pos rfl]
      exact (nanos_eq t).trans (if_pos leap)
    · rw [if_neg leap, if_neg (Nat.ne_of_lt below)]
      exact (nanos_eq t).trans (if_neg leap)

/-- Date and time of day in the form that is written. -/
def LocalTime.chars (l : LocalTime) : List Char :=
  l.date.chars ++ 'T' :: (Decimal.padded 2 l.hour ++ ':' :: Decimal.padded 2 l.minute ++
    ':' :: Decimal.padded 2 l.second ++ fractionChars l.nanos)

/-- The local time at any offset, written with that offset, is a text of the instant. -/
theorem spells_localAt (t : Instant) {offset : Int} {cs : List Char} (text : OffsetText offset cs)
    (year : -262143 ≤ (t.localAt offset).date.year ∧ (t.localAt offset).date.year ≤ 262142) :
    Spells t ((t.localAt offset).chars ++ cs) := by
  have denotes := localAt_denotes t text.minutes year
  have date := dateText_chars denotes.date
  have hour := numberText_padded (Nat.lt_trans denotes.hour (by decide))
  have minute := numberText_padded (Nat.lt_trans denotes.minute (by decide))
  have second := numberText_padded (Nat.lt_of_le_of_lt denotes.second (by decide))
  have fraction : FractionText (t.localAt offset).nanos (fractionChars (t.localAt offset).nanos) :=
    fractionText_fractionChars (Nat.mod_lt _ (by decide))
  have clock := ClockText.mk .nil hour .nil .nil minute .nil .nil second fraction
  simpa [LocalTime.chars] using Spells.mk denotes date (.inl rfl) clock .nil text .nil

/-- Where there is no offset the date is in range. -/
theorem localAt_zero_year (t : Instant) :
    -262143 ≤ (t.localAt 0).date.year ∧ (t.localAt 0).date.year ≤ 262142 := by
  have inRange := t.inRange
  rw [earliest_eq, latest_eq] at inRange
  have last : (t.seconds + 0) / 86400 < Date.yearStart (262142 + 1) := by
    rw [show (262142 : Int) + 1 = 262143 from rfl]
    omega
  exact ⟨Date.le_yearOfDay (by omega), Date.yearOfDay_le last⟩

/-- The written form of an instant is a text of it. -/
theorem spells_chars (t : Instant) : Spells t t.chars := by
  have written : t.chars = (t.localAt 0).chars ++ ['Z'] := by
    simp [chars, clockChars, LocalTime.chars, localAt, Instant.date, localSecond, secondOfDay]
  rw [written]
  exact spells_localAt t (.zulu (.inl rfl)) (localAt_zero_year t)

end Circulation.Time.Instant
