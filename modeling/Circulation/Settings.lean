/- # Circulation.Settings -- settings from named texts

Settings come from a lookup of texts by name. A blank text counts as none. Three settings have a
form of their own, and the first of them that breaks it is reported with its text as given; the
addresses of the database, the broker and the cache are passed on as they stand.
-/
import Circulation.Decimal
import Circulation.Lending.Policy
import Circulation.Text.Blank

namespace Circulation

/-- How the pipeline is set up. -/
structure Settings where
  databaseUrl : String
  rabbitmqUrl : Option String
  redisUrl : Option String
  retryPolicy : RetryPolicy
  amqpPrefetch : Nat
  port : Nat
deriving DecidableEq

/-- A setting whose text does not have the form it needs. -/
structure InvalidSetting where
  key : String
  value : String
deriving DecidableEq

namespace InvalidSetting

/-- What is said about a setting that cannot be used. -/
def message (e : InvalidSetting) : String := "Invalid value for " ++ e.key ++ ": " ++ e.value

end InvalidSetting

namespace Settings

/-! ## Forms of settings -/

/-- The text of a setting, unless it is blank. -/
def given? (lookup : String → Option String) (key : String) : Option String :=
  (lookup key).filter fun s => !Text.allBlank s

/-- A number of sixteen bits: an optional plus sign and digits. -/
def number16? (cs : List Char) : Option Nat := do
  let n ← match cs with
    | '+' :: rest => Decimal.value? rest
    | _ => Decimal.value? cs
  if n < 65536 then some n else none

/-- A policy by its name, blanks around it aside. -/
def policy? (s : String) : Option RetryPolicy :=
  RetryPolicy.ofText? (String.ofList (Text.trim s.toList))

/-- A number, blanks around it aside. -/
def number? (s : String) : Option Nat := number16? (Text.trim s.toList)

/-- A setting in its form, or the value for a setting that is not given. -/
def parsed {α : Type} (lookup : String → Option String) (key : String) (default : α)
    (read : String → Option α) : Except InvalidSetting α :=
  match given? lookup key with
  | none => .ok default
  | some s =>
    match read s with
    | some a => .ok a
    | none => .error ⟨key, s⟩

/-! ## All settings -/

def defaultDatabaseUrl : String := "postgres://localhost/library"

def defaultPrefetch : Nat := 10

def defaultPort : Nat := 3000

/-- The settings that a lookup gives. -/
def ofLookup (lookup : String → Option String) : Except InvalidSetting Settings := do
  let policy ← parsed lookup "LOAN_RETRY_POLICY" RetryPolicy.default policy?
  let prefetch ← parsed lookup "AMQP_PREFETCH" defaultPrefetch number?
  let port ← parsed lookup "PORT" defaultPort number?
  return {
    databaseUrl := (given? lookup "DATABASE_URL").getD defaultDatabaseUrl
    rabbitmqUrl := given? lookup "RABBITMQ_URL"
    redisUrl := given? lookup "REDIS_URL"
    retryPolicy := policy
    amqpPrefetch := prefetch
    port := port }

end Settings

end Circulation
