/- # Circulation.Proofs.Wire.Damage -- damaged messages

A message is damaged if its end is missing, wherever it was cut, or if something follows it that is not
white space throughout. The message of a record is the text of one object, and so no damaged message
holds a record: not the same one, and not another that has lost some of its members. A damaged command
is acknowledged and changes nothing, and no listener hears of a damaged event (`damaged_unheeded`).
-/
import Circulation.Lending.Dispatch
import Circulation.Messaging.Listener
import Circulation.Proofs.Json.Whole
import Circulation.Proofs.Tape
import Circulation.Proofs.Wire.RoundTrip
import Circulation.Store.Desk

namespace Circulation

open Json (Spaces Text)
open Lending (Dispatcher)
open Wire (edgeEvent)

/-! ## Damage -/

/-- The message is not whole any more: its end is missing, or something follows it. -/
inductive Damaged (whole : Bytes) : Bytes → Prop where
  | cut {kept lost : Bytes} : whole = kept ++ lost → lost ≠ [] → Damaged whole kept
  | continued {more : Bytes} : ¬Spaces more → Damaged whole (whole ++ more)

variable {tree : Json} {whole message : Bytes}

theorem Damaged.take {length : Nat} (short : length < whole.length) :
    Damaged whole (whole.take length) := by
  refine .cut (List.take_append_drop length whole).symm ?_
  intro none_
  have := List.drop_eq_nil_iff.mp none_
  omega

/-- A damaged text of an object is no text at all. -/
theorem Damaged.read? (object : ∃ ms, tree = .object ms) (text : Text (.tree tree) tree.render)
    (damaged : Damaged tree.render message) : Json.read? message = none := by
  obtain ⟨ms, rfl⟩ := object
  have readable : Json.read? (0x7B :: Json.renderMembers ms ++ [0x7D]) = some (.object ms) :=
    Json.read?_of_text text
  cases damaged with
  | cut parts missing => exact Json.read?_of_cut readable parts missing
  | @continued more filled =>
    cases here : Json.read? ((Json.object ms).render ++ more) with
    | none => rfl
    | some tree => exact absurd (Json.spaces_of_read? readable here) filled

/-- White space that follows changes nothing. -/
theorem read?_of_spaces {more : Bytes} (text : Text (.tree tree) whole) (blank : Spaces more) :
    Json.read? (whole ++ more) = Json.read? whole := by
  have spaced : Text (.tree tree) ([] ++ whole ++ more) := .spaced .nil text blank
  rw [Json.read?_of_text text]
  exact Json.read?_of_text spaced

theorem Command.decode?_of_damaged {c : Command} (damaged : Damaged c.encode message) :
    decode? message = none := by
  have object : ∃ ms, c.toJson = .object ms := ⟨_, rfl⟩
  rw [decode?, damaged.read? object c.text_toJson, Option.bind_none]

theorem Event.decode?_of_damaged {e : Event} (damaged : Damaged e.encode message) :
    decode? message = none := by
  have object : ∃ ms, e.toJson = .object ms := ⟨_, rfl⟩
  rw [decode?, damaged.read? object e.text_toJson, Option.bind_none]

/-! ## What becomes of a damaged message -/

/-- Whoever dispatches what is no command acknowledges it with a notice, and does nothing else. -/
theorem Lending.Dispatcher.dispatch_noise (dispatcher : Dispatcher)
    (noise : Command.decode? message = none) :
    dispatcher.dispatch message = .ask (.note .badCommand none) fun _ => .done .ack := by
  rw [Dispatcher.dispatch, noise]
  rfl

/-- Whoever listens to what is no event drops it with a notice, and hands nothing on. -/
theorem Listener.drops_noise (l : Listener) (noise : Event.decode? message = none) :
    l.deliver message = .ask (.note .badEvent none) fun _ => .done false := by
  rw [Listener.deliver, noise]
  rfl

/-- Whatever command or event a message held: when its end is missing, wherever it was cut, or something
other than white space follows it, it holds none. Then whatever the policy and the sink of events, the
message is acknowledged as a command, nothing is asked but to take notice, and the desk is as it was;
and as an event it is dropped with a notice, whatever the handler would do. White space that follows is
no damage. -/
theorem damaged_unheeded :
    (∀ (c : Command) (message : Bytes), Damaged c.encode message →
      Command.decode? message = none ∧
      ∀ (dispatcher : Dispatcher) (d : Desk),
        (dispatcher.dispatch message).run Desk.answer d = (.ack, d) ∧
        (dispatcher.dispatch message).asked Desk.answer d = [.note .badCommand none]) ∧
    (∀ (e : Event) (message : Bytes), Damaged e.encode message →
      Event.decode? message = none ∧
      ∀ (l : Listener) (d : Desk),
        ((l.deliver message).run Desk.answer d).1 = false ∧
        (l.deliver message).asked Desk.answer d = [.note .badEvent none]) ∧
    ∀ blank : Bytes, Spaces blank →
      (∀ c : Command, Command.decode? (c.encode ++ blank) = Command.decode? c.encode) ∧
      ∀ e : Event, Event.decode? (e.encode ++ blank) = Event.decode? e.encode := by
  refine ⟨?_, ?_, ?_⟩
  · intro c message damaged
    have noise := Command.decode?_of_damaged damaged
    refine ⟨noise, ?_⟩
    intro dispatcher d
    rw [dispatcher.dispatch_noise noise]
    exact ⟨rfl, rfl⟩
  · intro e message damaged
    have noise := Event.decode?_of_damaged damaged
    refine ⟨noise, ?_⟩
    intro l d
    rw [l.drops_noise noise]
    exact ⟨rfl, rfl⟩
  · intro blank spaces
    refine ⟨?_, ?_⟩
    · intro c
      rw [Command.decode?, Command.decode?, read?_of_spaces c.text_toJson spaces]
    · intro e
      rw [Event.decode?, Event.decode?, read?_of_spaces e.text_toJson spaces]

/-- A return by the owner whose correlation number looks like the end of a message. -/
def bracedReturn : Command := ⟨.giveBack, "\"\x7d\x7d\\", none, ⟨some ⟨7⟩, none, none, some ⟨4⟩⟩⟩

/-- The return is cut inside an escape of its correlation number, and where only the closing braces are
missing, and has a brace too many; the event is cut between two members, and has a comma too many. -/
theorem damaged_unheeded_braces :
    let d : Desk := ⟨Register.empty.put ⟨⟨1⟩, "Emma", 1, 0⟩, .empty, .none, ⟨0, 0⟩, []⟩
    let whole := bracedReturn.encode
    let told := edgeEvent.encode
    let dispatched (message : Bytes) :=
      (Dispatcher.dispatch ⟨Lending.recordingSink, .redeliverAll⟩ message).run Desk.answer d
    let heard (message : Bytes) := ((Listener.application.deliver message).run Desk.answer d).1
    (Damaged whole (whole.take 40) ∧ dispatched (whole.take 40) = (.ack, d)) ∧
      (Damaged whole (whole.take 77) ∧ dispatched (whole.take 77) = (.ack, d)) ∧
      (Damaged whole (whole ++ [0x20, 0x7D]) ∧ dispatched (whole ++ [0x20, 0x7D]) = (.ack, d)) ∧
      (Damaged told (told.take 84) ∧ heard (told.take 84) = false) ∧
      (Damaged told (told ++ [0x2C]) ∧ heard (told ++ [0x2C]) = false) ∧
      Spaces [0x20, 0x0A] ∧
      Command.decode? (whole ++ [0x20, 0x0A]) = Command.decode? whole := by
  intro d whole told dispatched heard
  obtain ⟨commands, events, blanks⟩ := damaged_unheeded
  have escape : Damaged whole (whole.take 40) := .take (by decide +kernel)
  have braces : Damaged whole (whole.take 77) := .take (by decide +kernel)
  have brace : Damaged whole (whole ++ [0x20, 0x7D]) :=
    .continued fun spaces => Bool.false_ne_true (List.all_eq_true.mpr spaces)
  have members : Damaged told (told.take 84) := .take (by decide +kernel)
  have comma : Damaged told (told ++ [0x2C]) :=
    .continued fun spaces => Bool.false_ne_true (List.all_eq_true.mpr spaces)
  have blank : Spaces [0x20, 0x0A] := List.all_eq_true.mp rfl
  have unread : ∀ message, Damaged whole message → dispatched message = (.ack, d) :=
    fun message damaged => ((commands bracedReturn message damaged).2 _ d).1
  have unheard : ∀ message, Damaged told message → heard message = false :=
    fun message damaged => ((events edgeEvent message damaged).2 _ d).1
  exact ⟨⟨escape, unread _ escape⟩, ⟨braces, unread _ braces⟩, ⟨brace, unread _ brace⟩,
    ⟨members, unheard _ members⟩, ⟨comma, unheard _ comma⟩, blank, (blanks _ blank).1 bracedReturn⟩

end Circulation
