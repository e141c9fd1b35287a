/- # Circulation.Json.Reader -- reading a JSON text byte by byte

The reader is a machine with a stack. It takes one byte at a time, so reading a text is a fold, and
reading a text in two parts is the same as reading it in one. The stack holds the arrays and
objects that are still open; the mode says what may come next. Nesting costs stack entries of the
machine and nothing else, so any depth can be read.

Once the tree is complete with nothing left open, only white space may follow.
-/
import Circulation.Json.Basic

namespace Circulation.Json

/-! ## The state of the machine -/

/-- An array or object that is still open. What it holds so far is kept in reverse. -/
inductive Frame where
  | array (done : List Json)
  /-- Between members. -/
  | object (done : List (Bytes × Json))
  /-- At the value of the member with this key. -/
  | member (done : List (Bytes × Json)) (key : Bytes)

/-- Whether a string is a key or a value. -/
inductive Role where
  | key
  | value

/-- How far an escape inside a string has come. -/
inductive Escape where
  /-- Not in an escape. -/
  | none
  /-- The backslash has been read. -/
  | opened
  /-- So many hexadecimal digits are still to come. -/
  | hex (missing : Nat)

/-- The part of a numeral that was read last. -/
inductive Numeral where
  | minus
  | zero
  | whole
  | point
  | fraction
  | exponent
  | exponentSign
  | exponentDigits

/-- A numeral may end after these parts. -/
def Numeral.complete : Numeral → Bool
  | .zero | .whole | .fraction | .exponentDigits => true
  | _ => false

/-- The part of a numeral that the byte continues with, if it continues the numeral. -/
def Numeral.next? (part : Numeral) (b : UInt8) : Option Numeral :=
  match part with
  | .minus => if b = 0x30 then some .zero else if isDigit b then some .whole else none
  | .zero => afterWhole b
  | .whole => if isDigit b then some .whole else afterWhole b
  | .point => if isDigit b then some .fraction else none
  | .fraction =>
    if isDigit b then some .fraction else if b = 0x65 ∨ b = 0x45 then some .exponent else none
  | .exponent =>
    if b = 0x2B ∨ b = 0x2D then some .exponentSign
    else if isDigit b then some .exponentDigits else none
  | .exponentSign => if isDigit b then some .exponentDigits else none
  | .exponentDigits => if isDigit b then some .exponentDigits else none
where
  /-- A point or an exponent may follow the whole part. -/
  afterWhole (b : UInt8) : Option Numeral :=
    if b = 0x2E then some .point else if b = 0x65 ∨ b = 0x45 then some .exponent else none

/-- What may come next. -/
inductive Mode where
  /-- A value. -/
  | value
  /-- The first element of an array, or its end. -/
  | firstElement
  /-- The first key of an object, or its end. -/
  | firstKey
  /-- A key. -/
  | key
  /-- The colon behind this key. -/
  | colon (key : Bytes)
  /-- The rest of a string; what was read is kept in reverse. -/
  | string (role : Role) (escape : Escape) (done : Bytes)
  /-- The rest of a numeral; what was read is kept in reverse. -/
  | number (part : Numeral) (done : Bytes)
  /-- The rest of the word for a value. -/
  | word (rest : Bytes) (denoted : Json)
  /-- A comma or the end of what is open. -/
  | afterValue
  /-- Nothing but white space: the tree is complete. -/
  | finished (tree : Json)

/-- The state of the machine. -/
structure Reader where
  mode : Mode
  stack : List Frame

namespace Reader

def start : Reader := ⟨.value, []⟩

/-! ## One byte -/

/-- The value is complete and goes where the stack says. -/
def complete (v : Json) : List Frame → Option Reader
  | [] => some ⟨.finished v, []⟩
  | .array done :: rest => some ⟨.afterValue, .array (v :: done) :: rest⟩
  | .member done key :: rest => some ⟨.afterValue, .object ((key, v) :: done) :: rest⟩
  | .object _ :: _ => none

/-- The first byte of a value. -/
def openValue (stack : List Frame) (b : UInt8) : Option Reader :=
  if b = 0x22 then some ⟨.string .value .none [], stack⟩
  else if b = 0x5B then some ⟨.firstElement, .array [] :: stack⟩
  else if b = 0x7B then some ⟨.firstKey, .object [] :: stack⟩
  else if b = 0x2D then some ⟨.number .minus [b], stack⟩
  else if b = 0x30 then some ⟨.number .zero [b], stack⟩
  else if isDigit b then some ⟨.number .whole [b], stack⟩
  else if b = 0x6E then some ⟨.word [0x75, 0x6C, 0x6C] .null, stack⟩
  else if b = 0x74 then some ⟨.word [0x72, 0x75, 0x65] (.bool true), stack⟩
  else if b = 0x66 then some ⟨.word [0x61, 0x6C, 0x73, 0x65] (.bool false), stack⟩
  else none

/-- A byte behind a complete element or member. -/
def closeOrContinue (stack : List Frame) (b : UInt8) : Option Reader :=
  match stack with
  | .array done :: rest =>
    if b = 0x2C then some ⟨.value, .array done :: rest⟩
    else if b = 0x5D then complete (.array done.reverse) rest
    else none
  | .object done :: rest =>
    if b = 0x2C then some ⟨.key, .object done :: rest⟩
    else if b = 0x7D then complete (.object done.reverse) rest
    else none
  | _ => none

/-- A byte inside a string. -/
def insideString (stack : List Frame) (role : Role) (escape : Escape) (done : Bytes) (b : UInt8) :
    Option Reader :=
  match escape with
  | .none =>
    if b = 0x22 then
      match role with
      | .key => some ⟨.colon done.reverse, stack⟩
      | .value => complete (.string done.reverse) stack
    else if b = 0x5C then some ⟨.string role .opened (b :: done), stack⟩
    else if b < 0x20 then none
    else some ⟨.string role .none (b :: done), stack⟩
  | .opened =>
    if b = 0x75 then some ⟨.string role (.hex 4) (b :: done), stack⟩
    else if (shortEscape? b).isSome then some ⟨.string role .none (b :: done), stack⟩
    else none
  | .hex missing =>
    if (hexDigit? b).isSome then
      some ⟨.string role (if missing ≤ 1 then .none else .hex (missing - 1)) (b :: done), stack⟩
    else none

/-- The machine takes a byte, or stops because no JSON text goes on like this. -/
def step (r : Reader) (b : UInt8) : Option Reader :=
  match r.mode with
  | .value => if isSpace b then some r else openValue r.stack b
  | .firstElement =>
    if isSpace b then some r
    else if b = 0x5D then closeOrContinue r.stack b
    else openValue r.stack b
  | .firstKey =>
    if isSpace b then some r
    else if b = 0x7D then closeOrContinue r.stack b
    else if b = 0x22 then some ⟨.string .key .none [], r.stack⟩
    else none
  | .key =>
    if isSpace b then some r
    else if b = 0x22 then some ⟨.string .key .none [], r.stack⟩
    else none
  | .colon key =>
    if isSpace b then some r
    else if b = 0x3A then
      match r.stack with
      | .object done :: rest => some ⟨.value, .member done key :: rest⟩
      | _ => none
    else none
  | .string role escape done => insideString r.stack role escape done b
  | .number part done =>
    match part.next? b with
    | some part' => some ⟨.number part' (b :: done), r.stack⟩
    | none =>
      if part.complete then do
        let r' ← complete (.number done.reverse) r.stack
        if isSpace b then some r' else closeOrContinue r'.stack b
      else none
  | .word rest denoted =>
    match rest with
    | [] => none
    | c :: more =>
      if b = c then
        if more.isEmpty then complete denoted r.stack else some ⟨.word more denoted, r.stack⟩
      else none
  | .afterValue => if isSpace b then some r else closeOrContinue r.stack b
  | .finished _ => if isSpace b then some r else none

/-- The tree at the end of the text, if the text is complete there. -/
def finish (r : Reader) : Option Json :=
  match r.mode, r.stack with
  | .finished tree, _ => some tree
  | .number part done, [] => if part.complete then some (.number done.reverse) else none
  | _, _ => none

/-! ## A text -/

/-- The state after some bytes. -/
def run (r : Reader) (bytes : Bytes) : Option Reader := bytes.foldlM step r

theorem run_nil (r : Reader) : r.run [] = some r := rfl

theorem run_cons (r : Reader) (b : UInt8) (bytes : Bytes) :
    r.run (b :: bytes) = (r.step b).bind (·.run bytes) := rfl

theorem run_append (r : Reader) (a b : Bytes) : r.run (a ++ b) = (r.run a).bind (·.run b) := by
  simp [run, List.foldlM_append, bind]

/-- Behind a complete tree the machine accepts white space and nothing else. -/
theorem run_finished (tree : Json) (stack : List Frame) (bytes : Bytes) :
    (Reader.mk (.finished tree) stack).run bytes =
      if bytes.all isSpace then some ⟨.finished tree, stack⟩ else none := by
  induction bytes with
  | nil => rfl
  | cons b bytes ih =>
    by_cases h : isSpace b
    · simp [run_cons, step, h, ih]
    · simp [run_cons, step, h]

end Reader

/-- The tree of a JSON text. -/
def read? (bytes : Bytes) : Option Json := (Reader.start.run bytes).bind Reader.finish

end Circulation.Json
