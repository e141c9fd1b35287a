/- # Circulation.Time.Timestamp -- the text of an instant

An instant is written in RFC 3339 form in coordinated universal time: the year with four digits, or
with a sign when four do not do, and the fraction of the second with none, three, six or nine
digits, the fewest that are exact. Reading is more liberal: blanks between the parts, one-digit
numbers, any offset below a day. The local date and the instant itself must both lie in the range
of instants.
-/
import Circulation.Decimal
import Circulation.Text.Blank
import Circulation.Time.Instant

namespace Circulation.Time

namespace Date

/-- The text of a date. -/
def chars (d : Date) : List Char :=
  year ++ '-' :: Decimal.padded 2 d.month ++ '-' :: Decimal.padded 2 d.day
where
  /-- Years of more than four digits, and those before year 0, have a sign. -/
  year : List Char :=
    if 0 ≤ d.year ∧ d.year ≤ 9999 then Decimal.padded 4 d.year.natAbs
    else (if d.year < 0 then '-' else '+') :: Decimal.padded 4 d.year.natAbs

end Date

namespace Instant

/-! ## Writing -/

/-- The fraction of a second with the fewest groups of three digits that are exact. -/
def fractionChars (nanos : Nat) : List Char :=
  if nanos = 0 then []
  else if nanos % 1000000 = 0 then '.' :: Decimal.padded 3 (nanos / 1000000)
  else if nanos % 1000 = 0 then '.' :: Decimal.padded 6 (nanos / 1000)
  else '.' :: Decimal.padded 9 nanos

/-- The time of day; a leap second is second 60. -/
def clockChars (t : Instant) : List Char :=
  let s := t.secondOfDay
  Decimal.padded 2 (s / 3600) ++ ':' :: Decimal.padded 2 (s / 60 % 60) ++
    ':' :: Decimal.padded 2 (s % 60 + if t.isLeap then 1 else 0) ++ fractionChars t.fraction

/-- The RFC 3339 form of an instant. -/
def chars (t : Instant) : List Char := t.date.chars ++ 'T' :: t.clockChars ++ ['Z']

/-- The RFC 3339 form of an instant, as a text. -/
def toText (t : Instant) : String := String.ofList t.chars

/-- The form for a reader of log lines. -/
def toLogText (t : Instant) : String :=
  String.ofList (t.date.chars ++ ' ' :: t.clockChars ++ " UTC".toList)

/-! ## Reading -/

/-- A text less the character it begins with. -/
def expect? (c : Char) : List Char → Option (List Char)
  | [] => none
  | d :: rest => if d = c then some rest else none

/-- The longest run of digits in front, up to `most` of them. -/
def leadingDigits (most : Nat) (cs : List Char) : List Char :=
  (cs.take most).takeWhile Decimal.isDigit

/-- A number of one to `most` digits in front, and what follows it. -/
def number? (most : Nat) (cs : List Char) : Option (Nat × List Char) := do
  let ds := leadingDigits most cs
  let n ← Decimal.value? ds
  return (n, cs.drop ds.length)

/-- A year: up to four digits, or a sign and any number of them. -/
def year? (cs : List Char) : Option (Int × List Char) :=
  match cs with
  | '+' :: rest => (number? rest.length rest).map fun (n, r) => ((n : Int), r)
  | '-' :: rest => (number? rest.length rest).map fun (n, r) => (-(n : Int), r)
  | _ => (number? 4 cs).map fun (n, r) => ((n : Int), r)

/-- The letter T in either case, or one space, stands between date and time. -/
def separator? : List Char → Option (List Char)
  | c :: rest => if c = 'T' ∨ c = 't' ∨ c = ' ' then some rest else none
  | [] => none

/-- The nanoseconds of a fraction: a point and digits, of which the first nine count. Without a
point there are none. -/
def fraction? (cs : List Char) : Option (Nat × List Char) :=
  match cs with
  | '.' :: rest => do
    let ds := leadingDigits rest.length rest
    let kept := ds.take 9
    let n ← Decimal.value? kept
    return (n * Nat.pow 10 (9 - kept.length), rest.drop ds.length)
  | _ => some (0, cs)

/-- Exactly two digits in front. -/
def twoDigits? : List Char → Option (Nat × List Char)
  | a :: b :: rest => do
    let a ← Decimal.digit? a
    let b ← Decimal.digit? b
    return (a * 10 + b, rest)
  | _ => none

/-- Hours and minutes of an offset, in seconds. Colons and blanks may stand between them. -/
def hoursAndMinutes? (cs : List Char) : Option (Nat × List Char) := do
  let (hours, cs) ← twoDigits? cs
  let (minutes, cs) ← twoDigits? (cs.dropWhile fun c => c = ':' || Text.isBlank c)
  if hours < 24 ∧ minutes < 60 then some (hours * 3600 + minutes * 60, cs) else none

/-- The letters U, T, C in any case. -/
def utc? : List Char → Option (List Char)
  | u :: t :: c :: rest =>
    if (u = 'U' ∨ u = 'u') ∧ (t = 'T' ∨ t = 't') ∧ (c = 'C' ∨ c = 'c') then some rest else none
  | _ => none

/-- The offset of local time from coordinated universal time, in seconds. -/
def offset? (cs : List Char) : Option (Int × List Char) :=
  match cs with
  | [] => none
  | c :: rest =>
    if c = 'Z' ∨ c = 'z' then some (0, rest)
    else if c = '+' then (hoursAndMinutes? rest).map fun (s, r) => ((s : Int), r)
    else if c = '-' ∨ c = '\u2212' then (hoursAndMinutes? rest).map fun (s, r) => (-(s : Int), r)
    else (utc? cs).map fun r => (0, r)

/-- A date that exists and lies in the range of instants. -/
def checkedDate? (year : Int) (month day : Nat) : Option Date :=
  let d : Date := ⟨year, month, day⟩
  if -262143 ≤ year ∧ year ≤ 262142 ∧ d.isValid then some d else none

/-- The instant of a local date and time. Second 60 is a leap second. -/
def ofLocal? (d : Date) (hour minute second nanos : Nat) (offset : Int) : Option Instant :=
  if hour < 24 ∧ minute < 60 ∧ second ≤ 60 then
    let leap := second = 60
    let plain : Nat := if leap then 59 else second
    ofUnix? (d.dayNumber * 86400 + hour * 3600 + minute * 60 + plain - offset)
      (if leap then nanos + nanosPerSecond else nanos)
  else none

/-- The instant that a text denotes. -/
def ofChars? (cs : List Char) : Option Instant := do
  let (year, cs) ← year? (Text.dropBlank cs)
  let cs ← expect? '-' (Text.dropBlank cs)
  let (month, cs) ← number? 2 (Text.dropBlank cs)
  let cs ← expect? '-' (Text.dropBlank cs)
  let (day, cs) ← number? 2 (Text.dropBlank cs)
  let cs ← separator? cs
  let (hour, cs) ← number? 2 (Text.dropBlank cs)
  let cs ← expect? ':' (Text.dropBlank cs)
  let (minute, cs) ← number? 2 (Text.dropBlank cs)
  let cs ← expect? ':' (Text.dropBlank cs)
  let (second, cs) ← number? 2 (Text.dropBlank cs)
  let (nanos, cs) ← fraction? cs
  let (offset, cs) ← offset? (Text.dropBlank cs)
  if (Text.dropBlank cs).isEmpty then
    let d ← checkedDate? year month day
    ofLocal? d hour minute second nanos offset
  else none

/-- The instant that a text denotes. -/
def ofText? (s : String) : Option Instant := ofChars? s.toList

end Instant

end Circulation.Time
