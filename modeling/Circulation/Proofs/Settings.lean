/- # Circulation.Proofs.Settings -- what a lookup sets

A variable is given if it is set and there is something else than white space in its value. An address
is passed on as it is given. A policy and a number must have their form, white space at both ends aside:
one of two words, or a numeral that fits into sixteen bits. `TakenFrom` says what settings come from a
lookup, each from its own variable, and `FirstBreach` which variable is reported when one does not have
its form.

The forms are told without the functions that read them: a text has one core (`Core`), and a run of
digits is worth the sum of its places, however many they are. Each reader is shown to read its form and
nothing else (`policy?_eq_some_iff`, `number?_eq_some_iff`), and what is said about settings rests on
that alone.
-/
import Mathlib.Data.Nat.Digits.Defs
import Circulation.Proofs.Time.Spelling
import Circulation.Settings

namespace Circulation

open Time.Instant (Blanks Stops dropBlank_append dropBlank_blanks)

/-! ## White space around a text -/

namespace Text

/-- What is left of a text without the white space at both ends. -/
structure Core (cs core : List Char) : Prop where
  around : ∃ before after, Blanks before ∧ Blanks after ∧ cs = before ++ core ++ after
  front : Stops isBlank core
  back : Stops isBlank core.reverse

theorem blanks_reverse {cs : List Char} (h : Blanks cs) : Blanks cs.reverse :=
  fun c mem => h c (List.mem_reverse.mp mem)

theorem blanks_append_iff {a b : List Char} : Blanks (a ++ b) ↔ Blanks a ∧ Blanks b :=
  List.forall_mem_append

/-- A text is some white space and what is left when it is dropped. -/
theorem exists_dropBlank (cs : List Char) :
    ∃ before, Blanks before ∧ cs = before ++ dropBlank cs ∧ Stops isBlank (dropBlank cs) := by
  refine ⟨cs.takeWhile isBlank, ?_, List.takeWhile_append_dropWhile.symm, ?_⟩
  · exact fun c mem => List.all_eq_true.mp List.all_takeWhile c mem
  · intro c head
    have first := List.head?_dropWhile_not isBlank cs
    rw [dropBlank] at head
    rw [head] at first
    exact first

theorem core_trim (cs : List Char) : Core cs (trim cs) := by
  obtain ⟨before, blank, cut, front⟩ := exists_dropBlank cs
  obtain ⟨after, blank', cut', back⟩ := exists_dropBlank (dropBlank cs).reverse
  have whole : dropBlank cs = trim cs ++ after.reverse := by
    rw [trim, ← List.reverse_append, ← cut', List.reverse_reverse]
  refine ⟨⟨before, after.reverse, blank, blanks_reverse blank', ?_⟩, ?_, ?_⟩
  · rw [List.append_assoc, ← whole]
    exact cut
  · intro c head
    refine front c ?_
    rw [whole, List.head?_append, head]
    rfl
  · rw [trim, List.reverse_reverse]
    exact back

theorem Core.eq_trim {cs core : List Char} (h : Core cs core) : core = trim cs := by
  obtain ⟨before, after, blank, blank', rfl⟩ := h.around
  rw [trim, List.append_assoc]
  cases core with
  | nil =>
    have all : Blanks (before ++ ([] ++ after)) := blanks_append_iff.mpr ⟨blank, blank'⟩
    rw [dropBlank_blanks all]
    rfl
  | cons c rest =>
    have stops : Stops isBlank (c :: rest ++ after) := .cons (h.front c rfl)
    rw [dropBlank_append blank stops, List.reverse_append,
      dropBlank_append (blanks_reverse blank') h.back, List.reverse_reverse]

/-- More white space around a text leaves its core. -/
theorem Core.pad {cs core before after : List Char} (h : Core cs core) (blank : Blanks before)
    (blank' : Blanks after) : Core (before ++ cs ++ after) core := by
  obtain ⟨before', after', own, own', rfl⟩ := h.around
  refine ⟨⟨before ++ before', after' ++ after, ?_, ?_, by simp⟩, h.front, h.back⟩
  · exact blanks_append_iff.mpr ⟨blank, own⟩
  · exact blanks_append_iff.mpr ⟨own', blank'⟩

theorem blanks_pad_iff {before cs after : List Char} (blank : Blanks before) (blank' : Blanks after) :
    Blanks (before ++ cs ++ after) ↔ Blanks cs := by
  rw [blanks_append_iff, blanks_append_iff]
  exact ⟨fun all => all.1.2, fun own => ⟨⟨blank, own⟩, blank'⟩⟩

end Text

/-! ## Numerals -/

namespace Decimal

/-- What a run of digits is worth: the sum of its places. -/
def worth (ds : List Char) : Nat := Nat.ofDigits 10 (ds.reverse.map fun c => c.toNat - '0'.toNat)

/-- One digit or more, worth this number. -/
structure Numeral (ds : List Char) (n : Nat) : Prop where
  some : ds ≠ []
  digits : ∀ c ∈ ds, c.isDigit = true
  value : n = worth ds

theorem worth_cons (c : Char) (ds : List Char) :
    worth (c :: ds) = (c.toNat - '0'.toNat) * 10 ^ ds.length + worth ds := by
  rw [worth, List.reverse_cons, List.map_append, Nat.ofDigits_append, List.length_map,
    List.length_reverse, List.map_singleton, Nat.ofDigits_singleton, worth]
  ring

theorem isDigit_eq (c : Char) : c.isDigit = isDigit c := by
  rw [Bool.eq_iff_iff, isDigit_iff, Char.isDigit, Bool.and_eq_true, decide_eq_true_eq,
    decide_eq_true_eq]
  exact Iff.rfl

theorem digit?_eq_some_iff {c : Char} {d : Nat} :
    digit? c = some d ↔ c.isDigit = true ∧ d = c.toNat - '0'.toNat := by
  rw [isDigit_eq, isDigit_iff, digit?]
  split
  next digit =>
    constructor
    · intro same
      exact ⟨digit, (Option.some.inj same).symm⟩
    · rintro ⟨-, rfl⟩
      rfl
  next other =>
    constructor
    · intro same
      cases same
    · rintro ⟨digit, -⟩
      exact absurd digit other

theorem foldlM_shiftIn_eq_some_iff {ds : List Char} {acc n : Nat} :
    ds.foldlM shiftIn acc = some n ↔
      (∀ c ∈ ds, c.isDigit = true) ∧ n = acc * 10 ^ ds.length + worth ds := by
  induction ds generalizing acc with
  | nil =>
    have nothing : acc * 10 ^ 0 + worth [] = acc := by simp [worth]
    rw [List.length_nil, nothing, List.foldlM_nil]
    constructor
    · rintro ⟨⟩
      exact ⟨fun _ => (absurd · List.not_mem_nil), rfl⟩
    · rintro ⟨-, rfl⟩
      rfl
  | cons c ds ih =>
    rw [List.foldlM_cons, worth_cons, List.length_cons]
    constructor
    · intro h
      obtain ⟨next, first, rest⟩ := Option.bind_eq_some_iff.mp h
      obtain ⟨d, digit, rfl⟩ := Option.map_eq_some_iff.mp first
      obtain ⟨isDigit, rfl⟩ := digit?_eq_some_iff.mp digit
      obtain ⟨others, rfl⟩ := ih.mp rest
      exact ⟨List.forall_mem_cons.mpr ⟨isDigit, others⟩, by ring⟩
    · rintro ⟨digits, rfl⟩
      obtain ⟨first, others⟩ := List.forall_mem_cons.mp digits
      have next : shiftIn acc c = some (acc * 10 + (c.toNat - '0'.toNat)) := by
        rw [shiftIn, digit?_eq_some_iff.mpr ⟨first, rfl⟩]
        rfl
      rw [next]
      exact ih.mpr ⟨others, by ring⟩

theorem value?_eq_some_iff {ds : List Char} {n : Nat} : value? ds = some n ↔ Numeral ds n := by
  constructor
  · intro read
    have some_ := ne_nil_of_value? read
    rw [value?, if_neg (by simpa using some_), foldlM_shiftIn_eq_some_iff, Nat.zero_mul,
      Nat.zero_add] at read
    exact ⟨some_, read.1, read.2⟩
  · rintro ⟨some_, digits, value⟩
    rw [value?, if_neg (by simpa using some_), foldlM_shiftIn_eq_some_iff, Nat.zero_mul,
      Nat.zero_add]
    exact ⟨digits, value⟩

end Decimal

namespace Settings

/-! ## Forms of settings -/

/-- The word names the policy. -/
inductive PolicyName : List Char → RetryPolicy → Prop
  | redeliverAll : PolicyName "redeliver_all".toList .redeliverAll
  | deadLetterPermanent : PolicyName "dead_letter_permanent".toList .deadLetterPermanent

/-- A numeral, behind a plus sign or none, of a number that fits into sixteen bits. -/
inductive Numeral16 : List Char → Nat → Prop
  | plain {ds : List Char} {n : Nat} : Decimal.Numeral ds n → n ≤ 65535 → Numeral16 ds n
  | plus {ds : List Char} {n : Nat} : Decimal.Numeral ds n → n ≤ 65535 → Numeral16 ('+' :: ds) n

/-- The core of a value has a form, which stands for this. -/
def Means {α : Type} (form : List Char → α → Prop) (v : String) (a : α) : Prop :=
  ∃ core, Text.Core v.toList core ∧ form core a

theorem means_iff {α : Type} {form : List Char → α → Prop} {v : String} {a : α} :
    Means form v a ↔ form (Text.trim v.toList) a := by
  constructor
  · rintro ⟨core, isCore, means⟩
    exact isCore.eq_trim ▸ means
  · exact fun means => ⟨_, Text.core_trim _, means⟩

theorem policy?_eq_some_iff {v : String} {p : RetryPolicy} :
    policy? v = some p ↔ Means PolicyName v p := by
  rw [means_iff, policy?, RetryPolicy.ofText?]
  generalize Text.trim v.toList = core
  constructor
  · intro h
    split at h
    next same =>
      cases h
      rw [← String.toList_ofList (l := core), same]
      exact .redeliverAll
    next =>
      split at h
      next same =>
        cases h
        rw [← String.toList_ofList (l := core), same]
        exact .deadLetterPermanent
      next => cases h
  · intro named
    cases named <;> rfl

/-- What stands behind a plus sign, if there is one. -/
def unsigned : List Char → List Char
  | '+' :: rest => rest
  | cs => cs

theorem unsigned_cases (cs : List Char) :
    cs = '+' :: unsigned cs ∨ (unsigned cs = cs ∧ ∀ rest, cs ≠ '+' :: rest) := by
  unfold unsigned
  split
  next rest => exact .inl rfl
  next other => exact .inr ⟨rfl, other⟩

theorem number16?_eq (cs : List Char) :
    number16? cs =
      (Decimal.value? (unsigned cs)).bind fun n => if n < 65536 then some n else none := by
  rcases unsigned_cases cs with plus | ⟨same, other⟩
  · rw [plus]
    rfl
  · rw [same, number16?]
    · rfl
    · exact other

theorem number16?_eq_some_iff {cs : List Char} {n : Nat} :
    number16? cs = some n ↔ Numeral16 cs n := by
  constructor
  · intro h
    rw [number16?_eq] at h
    obtain ⟨m, read, small⟩ := Option.bind_eq_some_iff.mp h
    split at small
    next fits =>
      cases small
      have fits : n ≤ 65535 := by omega
      rcases unsigned_cases cs with plus | ⟨same, -⟩
      · rw [plus]
        exact .plus (Decimal.value?_eq_some_iff.mp read) fits
      · rw [same] at read
        exact .plain (Decimal.value?_eq_some_iff.mp read) fits
    next => cases small
  · intro h
    have read : Decimal.value? (unsigned cs) = some n ∧ n ≤ 65535 := by
      cases h with
      | plus numeral fits => exact ⟨Decimal.value?_eq_some_iff.mpr numeral, fits⟩
      | plain numeral fits =>
        rcases unsigned_cases cs with plus | ⟨same, -⟩
        · have sign : '+' ∈ cs := plus ▸ List.mem_cons_self
          exact absurd (numeral.digits '+' sign) (by decide)
        · rw [same]
          exact ⟨Decimal.value?_eq_some_iff.mpr numeral, fits⟩
    rw [number16?_eq, read.1, Option.bind_some]
    apply if_pos
    omega

theorem number?_eq_some_iff {v : String} {n : Nat} : number? v = some n ↔ Means Numeral16 v n := by
  rw [means_iff, number?, number16?_eq_some_iff]

/-! ## One variable -/

variable {α : Type} {lookup lookup' : String → Option String}

/-- The variable is set to this, and it is not all white space. -/
def Given (text? : Option String) (v : String) : Prop := text? = some v ∧ ¬Blanks v.toList

/-- What is taken from a variable: what its value stands for, or the default if it is not given. -/
inductive Takes (text? : Option String) (default : α) (means : String → α → Prop) : α → Prop
  | given {v : String} {a : α} : Given text? v → means v a → Takes text? default means a
  | unset : (∀ v, ¬Given text? v) → Takes text? default means default

/-- A variable and what is allowed as its value. -/
abbrev Requirement := String × (String → Prop)

/-- The variable is given, and its value is not allowed. -/
def Breaks (lookup : String → Option String) (x : Requirement) (v : String) : Prop :=
  Given (lookup x.1) v ∧ ¬x.2 v

theorem allBlank_iff {v : String} : Text.allBlank v = true ↔ Blanks v.toList := List.all_eq_true

theorem given?_eq_some_iff {key v : String} :
    given? lookup key = some v ↔ Given (lookup key) v := by
  rw [given?, Option.filter_eq_some_iff, Given, ← allBlank_iff]
  simp

theorem given?_eq_none_iff {key : String} :
    given? lookup key = none ↔ ∀ v, ¬Given (lookup key) v := by
  rw [Option.eq_none_iff_forall_ne_some]
  exact forall_congr' fun v => not_congr given?_eq_some_iff

theorem takes_iff {key : String} {default a : α} {means : String → α → Prop} :
    Takes (lookup key) default means a ↔
      (∃ v, given? lookup key = some v ∧ means v a) ∨ (given? lookup key = none ∧ a = default) := by
  rw [given?_eq_none_iff]
  constructor
  · rintro (⟨given, means⟩ | unset)
    · exact .inl ⟨_, given?_eq_some_iff.mpr given, means⟩
    · exact .inr ⟨unset, rfl⟩
  · rintro (⟨v, given, means⟩ | ⟨unset, rfl⟩)
    · exact .given (given?_eq_some_iff.mp given) means
    · exact .unset unset

theorem getD_given?_iff {key default url : String} :
    (given? lookup key).getD default = url ↔
      Takes (lookup key) default (fun v url => url = v) url := by
  rw [takes_iff]
  cases given? lookup key <;> simp [eq_comm]

theorem given?_iff {key : String} {url : Option String} :
    given? lookup key = url ↔ Takes (lookup key) none (fun v url => url = some v) url := by
  rw [takes_iff]
  cases given? lookup key <;> simp [eq_comm]

section Parsed

variable {key : String} (default : α) {read : String → Option α} {means : String → α → Prop}

theorem parsed_eq_ok_iff (reads : ∀ {v a}, read v = some a ↔ means v a) {a : α} :
    parsed lookup key default read = .ok a ↔ Takes (lookup key) default means a := by
  rw [takes_iff, parsed]
  cases given? lookup key with
  | none => simp [eq_comm]
  | some v => cases h : read v <;> simp [← reads, h]

theorem parsed_eq_error_iff (reads : ∀ {v a}, read v = some a ↔ means v a) {e : InvalidSetting} :
    parsed lookup key default read = .error e ↔
      e.key = key ∧ Breaks lookup (key, fun v => ∃ a, means v a) e.value := by
  rw [Breaks, ← given?_eq_some_iff, parsed]
  constructor
  · intro h
    split at h
    next => cases h
    next v given =>
      split at h
      next => cases h
      next refused =>
        cases h
        refine ⟨rfl, given, ?_⟩
        rintro ⟨a, means⟩
        exact Option.some_ne_none a ((reads.mpr means).symm.trans refused)
  · rintro ⟨rfl, given, unread⟩
    have refused : read e.value = none :=
      Option.eq_none_iff_forall_ne_some.mpr fun a read => unread ⟨a, reads.mp read⟩
    simp only [given, refused]

theorem exists_parsed_iff (reads : ∀ {v a}, read v = some a ↔ means v a) :
    (∃ a, parsed lookup key default read = .ok a) ↔
      ∀ v, ¬Breaks lookup (key, fun v => ∃ a, means v a) v := by
  constructor
  · rintro ⟨a, ok⟩ v breaks
    have error := (parsed_eq_error_iff default (e := ⟨key, v⟩) reads).mpr ⟨rfl, breaks⟩
    cases ok.symm.trans error
  · intro sound
    cases h : parsed lookup key default read with
    | ok a => exact ⟨a, rfl⟩
    | error e => exact absurd ((parsed_eq_error_iff default reads).mp h).2 (sound _)

end Parsed

/-! ## All variables -/

/-- The variables that must have a form, in the order in which they are looked at. -/
def required : List Requirement :=
  [("LOAN_RETRY_POLICY", fun v => ∃ p, Means PolicyName v p),
    ("AMQP_PREFETCH", fun v => ∃ n, Means Numeral16 v n),
    ("PORT", fun v => ∃ n, Means Numeral16 v n)]

/-- The first of the variables that does not have its form is reported, with its value as it stands. -/
def FirstBreach (lookup : String → Option String) (vars : List Requirement) (e : InvalidSetting) :
    Prop :=
  ∃ before allowed after, vars = before ++ (e.key, allowed) :: after ∧
    (∀ x ∈ before, ∀ v, ¬Breaks lookup x v) ∧ Breaks lookup (e.key, allowed) e.value

theorem not_firstBreach_nil {e : InvalidSetting} : ¬FirstBreach lookup [] e := by
  rintro ⟨before, allowed, after, cut, -⟩
  simp at cut

theorem firstBreach_cons_iff {x : Requirement} {vars : List Requirement} {e : InvalidSetting} :
    FirstBreach lookup (x :: vars) e ↔
      (e.key = x.1 ∧ Breaks lookup x e.value) ∨
        ((∀ v, ¬Breaks lookup x v) ∧ FirstBreach lookup vars e) := by
  constructor
  · rintro ⟨before, allowed, after, cut, sound, breaks⟩
    cases before with
    | nil =>
      obtain ⟨rfl, -⟩ := List.cons.inj cut
      exact .inl ⟨rfl, breaks⟩
    | cons _ before =>
      obtain ⟨rfl, rest⟩ := List.cons.inj cut
      obtain ⟨first, sound⟩ := List.forall_mem_cons.mp sound
      exact .inr ⟨first, before, allowed, after, rest, sound, breaks⟩
  · rintro (⟨same, breaks⟩ | ⟨first, before, allowed, after, rfl, sound, breaks⟩)
    · obtain ⟨key, allowed⟩ := x
      cases same
      exact ⟨[], allowed, vars, rfl, fun _ => (absurd · List.not_mem_nil), breaks⟩
    · exact ⟨x :: before, allowed, after, rfl, List.forall_mem_cons.mpr ⟨first, sound⟩, breaks⟩

theorem exists_firstBreach_iff {vars : List Requirement} :
    (∃ e, FirstBreach lookup vars e) ↔ ∃ x ∈ vars, ∃ v, Breaks lookup x v := by
  constructor
  · rintro ⟨e, before, allowed, after, rfl, -, breaks⟩
    exact ⟨_, List.mem_append_right _ List.mem_cons_self, _, breaks⟩
  · rintro ⟨x, mem, v, breaks⟩
    induction vars with
    | nil => exact absurd mem List.not_mem_nil
    | cons first vars ih =>
      by_cases broken : ∃ v, Breaks lookup first v
      · obtain ⟨v, breaks⟩ := broken
        exact ⟨⟨first.1, v⟩, firstBreach_cons_iff.mpr (.inl ⟨rfl, breaks⟩)⟩
      · have sound := not_exists.mp broken
        rcases List.mem_cons.mp mem with rfl | mem
        · exact absurd breaks (sound v)
        · obtain ⟨e, later⟩ := ih mem
          exact ⟨e, firstBreach_cons_iff.mpr (.inr ⟨sound, later⟩)⟩

/-- The settings that come from a lookup, each from its own variable. -/
structure TakenFrom (lookup : String → Option String) (s : Settings) : Prop where
  databaseUrl : Takes (lookup "DATABASE_URL") "postgres://localhost/library" (fun v url => url = v)
    s.databaseUrl
  rabbitmqUrl : Takes (lookup "RABBITMQ_URL") none (fun v url => url = some v) s.rabbitmqUrl
  redisUrl : Takes (lookup "REDIS_URL") none (fun v url => url = some v) s.redisUrl
  retryPolicy : Takes (lookup "LOAN_RETRY_POLICY") .redeliverAll (Means PolicyName) s.retryPolicy
  amqpPrefetch : Takes (lookup "AMQP_PREFETCH") 10 (Means Numeral16) s.amqpPrefetch
  port : Takes (lookup "PORT") 3000 (Means Numeral16) s.port

theorem ofLookup_eq_error_iff {e : InvalidSetting} :
    ofLookup lookup = .error e ↔ FirstBreach lookup required e := by
  rw [required, firstBreach_cons_iff, firstBreach_cons_iff, firstBreach_cons_iff,
    ← exists_parsed_iff RetryPolicy.default policy?_eq_some_iff,
    ← exists_parsed_iff defaultPrefetch number?_eq_some_iff,
    ← parsed_eq_error_iff RetryPolicy.default policy?_eq_some_iff,
    ← parsed_eq_error_iff defaultPrefetch number?_eq_some_iff,
    ← parsed_eq_error_iff defaultPort number?_eq_some_iff, ofLookup]
  cases parsed lookup "LOAN_RETRY_POLICY" RetryPolicy.default policy? with
  | error e' => simp [bind, Except.bind]
  | ok policy =>
    cases parsed lookup "AMQP_PREFETCH" defaultPrefetch number? with
    | error e' => simp [bind, Except.bind]
    | ok prefetch =>
      cases parsed lookup "PORT" defaultPort number? with
      | error e' => simp [bind, Except.bind, not_firstBreach_nil]
      | ok port => simp [bind, Except.bind, pure, Except.pure, not_firstBreach_nil]

theorem ofLookup_eq_ok_iff {s : Settings} : ofLookup lookup = .ok s ↔ TakenFrom lookup s := by
  constructor
  · intro h
    unfold ofLookup at h
    cases policy : parsed lookup "LOAN_RETRY_POLICY" RetryPolicy.default policy? with
    | error e => simp [policy, bind, Except.bind] at h
    | ok p =>
      cases prefetch : parsed lookup "AMQP_PREFETCH" defaultPrefetch number? with
      | error e => simp [policy, prefetch, bind, Except.bind] at h
      | ok n =>
        cases port : parsed lookup "PORT" defaultPort number? with
        | error e => simp [policy, prefetch, port, bind, Except.bind] at h
        | ok m =>
          simp only [policy, prefetch, port, bind, Except.bind, pure, Except.pure,
            Except.ok.injEq] at h
          subst h
          exact ⟨getD_given?_iff.mp rfl, given?_iff.mp rfl, given?_iff.mp rfl,
            (parsed_eq_ok_iff _ policy?_eq_some_iff).mp policy,
            (parsed_eq_ok_iff _ number?_eq_some_iff).mp prefetch,
            (parsed_eq_ok_iff _ number?_eq_some_iff).mp port⟩
  · intro taken
    have policy := (parsed_eq_ok_iff _ policy?_eq_some_iff).mpr taken.retryPolicy
    have prefetch := (parsed_eq_ok_iff _ number?_eq_some_iff).mpr taken.amqpPrefetch
    have port := (parsed_eq_ok_iff _ number?_eq_some_iff).mpr taken.port
    have database := getD_given?_iff.mpr taken.databaseUrl
    have broker := given?_iff.mpr taken.rabbitmqUrl
    have cache := given?_iff.mpr taken.redisUrl
    simp only [ofLookup, RetryPolicy.default, defaultPrefetch, defaultPort, defaultDatabaseUrl,
      policy, prefetch, port, database, broker, cache]
    rfl

/-! ## Other lookups -/

/-- Of two settings, those are the same whose variables are the same. -/
structure SameWhere (same : String → Prop) (s s' : Settings) : Prop where
  databaseUrl : same "DATABASE_URL" → s.databaseUrl = s'.databaseUrl
  rabbitmqUrl : same "RABBITMQ_URL" → s.rabbitmqUrl = s'.rabbitmqUrl
  redisUrl : same "REDIS_URL" → s.redisUrl = s'.redisUrl
  retryPolicy : same "LOAN_RETRY_POLICY" → s.retryPolicy = s'.retryPolicy
  amqpPrefetch : same "AMQP_PREFETCH" → s.amqpPrefetch = s'.amqpPrefetch
  port : same "PORT" → s.port = s'.port

/-- A value does not stand for two things. -/
def Single (means : String → α → Prop) : Prop := ∀ v a b, means v a → means v b → a = b

/-- What a reader reads is one thing at most. -/
theorem single_of_reads {read : String → Option α} {means : String → α → Prop}
    (reads : ∀ {v a}, read v = some a ↔ means v a) : Single means := by
  intro v a b ha hb
  exact Option.some.inj ((reads.mpr ha).symm.trans (reads.mpr hb))

theorem single_verbatim (f : String → α) : Single fun v a => a = f v := by
  rintro v a b rfl rfl
  rfl

theorem Takes.unique {text? text?' : Option String} {default a b : α} {means : String → α → Prop}
    (h : Takes text? default means a) (h' : Takes text?' default means b) (single : Single means)
    (same : text? = text?') : a = b := by
  subst same
  cases h with
  | given there ha =>
    cases h' with
    | given there' hb =>
      cases there.1.symm.trans there'.1
      exact single _ _ _ ha hb
    | unset none_ => exact absurd there (none_ _)
  | unset none_ =>
    cases h' with
    | given there' => exact absurd there' (none_ _)
    | unset => rfl

theorem TakenFrom.sameWhere {s s' : Settings} (t : TakenFrom lookup s) (t' : TakenFrom lookup' s') :
    SameWhere (fun key => lookup key = lookup' key) s s' where
  databaseUrl := t.databaseUrl.unique t'.databaseUrl (single_verbatim id)
  rabbitmqUrl := t.rabbitmqUrl.unique t'.rabbitmqUrl (single_verbatim some)
  redisUrl := t.redisUrl.unique t'.redisUrl (single_verbatim some)
  retryPolicy := t.retryPolicy.unique t'.retryPolicy (single_of_reads policy?_eq_some_iff)
  amqpPrefetch := t.amqpPrefetch.unique t'.amqpPrefetch (single_of_reads number?_eq_some_iff)
  port := t.port.unique t'.port (single_of_reads number?_eq_some_iff)

/-- The settings depend on nothing but what is given. -/
theorem ofLookup_congr (same : ∀ key v, Given (lookup' key) v ↔ Given (lookup key) v) :
    ofLookup lookup' = ofLookup lookup := by
  have given (key : String) : given? lookup' key = given? lookup key := by
    ext v
    rw [given?_eq_some_iff, given?_eq_some_iff]
    exact same key v
  simp only [ofLookup, parsed, given]

/-- The same text, or one with white space around it. -/
inductive Pads : Option String → Option String → Prop
  | same {text? : Option String} : Pads text? text?
  | around {v before after : String} : Blanks before.toList → Blanks after.toList →
      Pads (some v) (some (before ++ v ++ after))

/-- White space around a text leaves what is taken from it. -/
theorem Takes.pad {text? text?' : Option String} {default a : α} {form : List Char → α → Prop}
    (h : Takes text? default (Means form) a) (pads : Pads text? text?') :
    Takes text?' default (Means form) a := by
  cases pads with
  | same => exact h
  | @around v before after blank blank' =>
    have spelled : (before ++ v ++ after).toList = before.toList ++ v.toList ++ after.toList := by
      simp
    cases h with
    | given given means =>
      obtain ⟨same, dark⟩ := given
      cases same
      obtain ⟨core, isCore, means⟩ := means
      refine .given (v := before ++ v ++ after) ⟨rfl, ?_⟩ ⟨core, ?_, means⟩
      · rw [spelled, Text.blanks_pad_iff blank blank']
        exact dark
      · rw [spelled]
        exact isCore.pad blank blank'
    | unset none_ =>
      refine .unset ?_
      rintro v' ⟨same, dark⟩
      cases same
      rw [spelled, Text.blanks_pad_iff blank blank'] at dark
      exact none_ v ⟨rfl, dark⟩

theorem TakenFrom.pad {s : Settings} (t : TakenFrom lookup s)
    (pads : ∀ key, Pads (lookup key) (lookup' key)) :
    ∃ s', TakenFrom lookup' s' ∧ s'.retryPolicy = s.retryPolicy ∧
      s'.amqpPrefetch = s.amqpPrefetch ∧ s'.port = s.port :=
  ⟨{ s with
      databaseUrl := (given? lookup' "DATABASE_URL").getD defaultDatabaseUrl
      rabbitmqUrl := given? lookup' "RABBITMQ_URL"
      redisUrl := given? lookup' "REDIS_URL" },
    ⟨getD_given?_iff.mp rfl, given?_iff.mp rfl, given?_iff.mp rfl, t.retryPolicy.pad (pads _),
      t.amqpPrefetch.pad (pads _), t.port.pad (pads _)⟩, rfl, rfl, rfl⟩

/-! ## Every lookup -/

/-- Settings are refused exactly if one of three variables is given and does not have its form, and then
the first one of them is reported, with its value as it stands. Otherwise each setting comes from its own
variable alone, exactly. A blank value is like none, and white space around a value changes nothing
about the policy and the numbers. -/
theorem settings_of_lookup (lookup : String → Option String) :
    ((∀ s, ofLookup lookup ≠ .ok s) ↔ ∃ x ∈ required, ∃ v, Breaks lookup x v) ∧
      (∀ e, ofLookup lookup = .error e ↔ FirstBreach lookup required e) ∧
      (∀ s, ofLookup lookup = .ok s ↔ TakenFrom lookup s) ∧
      (∀ lookup' s s', ofLookup lookup = .ok s → ofLookup lookup' = .ok s' →
        SameWhere (fun key => lookup key = lookup' key) s s') ∧
      (∀ lookup', (∀ key v, Given (lookup' key) v ↔ Given (lookup key) v) →
        ofLookup lookup' = ofLookup lookup) ∧
      (∀ lookup' s, (∀ key, Pads (lookup key) (lookup' key)) → ofLookup lookup = .ok s →
        ∃ s', ofLookup lookup' = .ok s' ∧ s'.retryPolicy = s.retryPolicy ∧
          s'.amqpPrefetch = s.amqpPrefetch ∧ s'.port = s.port) := by
  refine ⟨?_, fun e => ofLookup_eq_error_iff, fun s => ofLookup_eq_ok_iff, ?_, ?_, ?_⟩
  · rw [← exists_firstBreach_iff]
    cases h : ofLookup lookup with
    | error e => exact ⟨fun _ => ⟨e, ofLookup_eq_error_iff.mp h⟩, fun _ s => nofun⟩
    | ok s =>
      constructor
      · exact fun refused => absurd rfl (refused s)
      · rintro ⟨e, breach⟩
        cases h.symm.trans (ofLookup_eq_error_iff.mpr breach)
  · intro lookup' s s' ok ok'
    exact (ofLookup_eq_ok_iff.mp ok).sameWhere (ofLookup_eq_ok_iff.mp ok')
  · exact fun lookup' same => ofLookup_congr same
  · intro lookup' s pads ok
    obtain ⟨s', taken, same⟩ := (ofLookup_eq_ok_iff.mp ok).pad pads
    exact ⟨s', ofLookup_eq_ok_iff.mpr taken, same⟩

/-- A number too great by one is reported before a port that is none, with the blank in front of it. -/
example : ofLookup (fun key => if key = "PORT" then some "many" else
    if key = "AMQP_PREFETCH" then some " 65536" else none) = .error ⟨"AMQP_PREFETCH", " 65536"⟩ := by
  decide

end Settings

end Circulation
