/- # Circulation.Store.Desk -- surroundings in memory

A desk answers what borrowing and returning ask: books on a shelf, loans in a ledger, a clock that
moves by a fixed step, forward or back, at every reading, and a record of events. Faults can be
switched on: reads and writes of books fail, loans cannot be created, or the next settling is lost,
which settles the loan and denies it.
-/
import Circulation.Request
import Circulation.Store.Ledger
import Circulation.Store.Shelf

namespace Circulation

open Time (Instant)

/-- Faults that are switched on. -/
structure Faults where
  failReads : Bool
  failUpdates : Bool
  failCreates : Bool
  /-- For one settling only. -/
  loseNextReturn : Bool
deriving DecidableEq

namespace Faults

/-- Everything works. -/
def none : Faults := ⟨false, false, false, false⟩

instance : Inhabited Faults := ⟨none⟩

end Faults

/-- A count of nanoseconds since 1970, and how far a reading moves it. -/
structure Clock where
  nanos : Int
  tick : Int
deriving DecidableEq, Inhabited

namespace Clock

/-- The instant that the clock shows. Before 1970 and after the last instant it shows none. -/
def now? (c : Clock) : Option Instant :=
  if 0 ≤ c.nanos then
    Instant.ofUnix? (c.nanos / Time.nanosPerSecond) (c.nanos % Time.nanosPerSecond).toNat
  else none

/-- The present instant, and the clock after it was read. Where it shows none the beginning of the
count is read. -/
def read (c : Clock) : Instant × Clock :=
  (c.now?.getD .epoch, { c with nanos := c.nanos + c.tick })

end Clock

/-- Books, loans, faults, clock and recorded events. -/
structure Desk where
  shelf : Shelf
  ledger : Ledger
  faults : Faults
  clock : Clock
  /-- In the order of recording. -/
  events : List Event
deriving Inhabited

namespace Desk

/-! ## Stores -/

def booksUnavailable : StoreError := ⟨"book store unavailable"⟩

def loansUnavailable : StoreError := ⟨"loan store unavailable"⟩

/-- Answer a call to the stores. -/
def answerStore (c : StoreCall) (d : Desk) : c.Answer × Desk :=
  match c with
  | .findBook id =>
    if d.faults.failReads then (.error booksUnavailable, d) else (.ok (d.shelf.find? id), d)
  | .saveBook b =>
    if d.faults.failUpdates then (.error booksUnavailable, d)
    else
      let (saved, shelf) := d.shelf.save b
      (.ok saved, { d with shelf })
  | .findLoan id => (.ok (d.ledger.find? id), d)
  | .createLoan draft =>
    if d.faults.failCreates then (.error loansUnavailable, d)
    else
      let (loan, ledger) := d.ledger.create draft
      (.ok loan, { d with ledger })
  | .markReturned id user at_ =>
    let (marked, ledger) := d.ledger.markReturned id user at_
    (.ok (marked && !d.faults.loseNextReturn),
      { d with ledger, faults := { d.faults with loseNextReturn := false } })
  | .hasActiveLoan user book => (.ok (d.ledger.hasActive user book), d)

/-! ## Everything else -/

/-- Answer a request. Requests to transports are refused; notices go nowhere. -/
def answer : Surroundings Desk
  | .enterGate, d => ((), d)
  | .leaveGate, d => ((), d)
  | .readClock, d =>
    let (now, clock) := d.clock.read
    (now, { d with clock })
  | .freshId, d => ("", d)
  | .store c, d => answerStore c d
  | .record e, d => ((), { d with events := d.events ++ [e] })
  | .hear _, d => ((), d)
  | .send _ _ _, d => (.error (.publish ""), d)
  | .dial _, d => (.error (.connection ""), d)
  | .broker _, d => (.error "", d)
  | .pubSub _, d => (.error "", d)
  | .note _ _, d => ((), d)

end Desk

end Circulation
