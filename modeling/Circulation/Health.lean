/- # Circulation.Health -- answers about the process

Two paths can be asked over HTTP: whether the process lives, and which transports it uses. Both take
GET, and HEAD, which gets the same answer without its body. Paths are compared letter by letter.
-/
import Circulation.Json.Printer
import Circulation.Messaging.Outcome

namespace Circulation.Health

/-- What is known about the transports. -/
structure Status where
  mode : TransportMode
  fallbackAvailable : Bool
deriving DecidableEq

/-- An answer. -/
structure Response where
  status : Nat
  contentType : Option String
  allow : Option String
  body : Bytes
deriving DecidableEq

/-! ## Paths -/

/-- What stands before the query and the fragment. -/
def beforeQuery (cs : List Char) : List Char := cs.takeWhile fun c => c != '?' && c != '#'

/-- What follows the scheme and its two slashes, if there is a scheme. -/
def afterScheme? : List Char → Option (List Char)
  | ':' :: '/' :: '/' :: rest => some rest
  | c :: rest => if c = '/' ∨ c = '?' ∨ c = '#' then none else afterScheme? rest
  | [] => none

/-- The path of a request target. A target with a scheme has its path after the authority; one
that is neither a path, nor has a scheme, nor is an asterisk names an authority and has no path. -/
def pathOf (target : String) : String :=
  let cs := target.toList
  match cs with
  | '/' :: _ => String.ofList (beforeQuery cs)
  | ['*'] => "*"
  | _ =>
    match afterScheme? cs with
    | none => ""
    | some rest =>
      match beforeQuery rest |>.dropWhile (· != '/') with
      | [] => "/"
      | path => String.ofList path

/-! ## Answers -/

/-- The status of the transports as a tree. -/
def Status.toJson (s : Status) : Json :=
  .object [Json.entry "mode" (Json.ofText s.mode.text),
    Json.entry "fallback_available" (.bool s.fallbackAvailable)]

/-- The type and the body of the answer on a path, if there is one. -/
def page? (s : Status) (path : String) : Option (String × Bytes) :=
  if path = "/health" then some ("text/plain; charset=utf-8", Bytes.ofText "OK")
  else if path = "/health/transport" then some ("application/json", s.toJson.render)
  else none

/-- The answer to a request. -/
def respond (s : Status) (method target : String) : Response :=
  match page? s (pathOf target) with
  | none => ⟨404, none, none, []⟩
  | some (contentType, body) =>
    if method = "GET" then ⟨200, some contentType, none, body⟩
    else if method = "HEAD" then ⟨200, some contentType, none, []⟩
    else ⟨405, none, some "GET,HEAD", []⟩

end Circulation.Health
