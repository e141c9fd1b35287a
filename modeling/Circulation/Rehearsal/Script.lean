/- # Circulation.Rehearsal.Script -- what a rehearsal can do

A rehearsal is a list of steps. Some set the scene, some hand commands and events to the library in
one of its ways, some act as the broker or the publish/subscribe server. Each step has a result.
-/
import Circulation.Lending.GiveBack
import Circulation.Rehearsal.World

namespace Circulation.Rehearsal

/-! ## Steps -/

/-- One of the two transports that keep their messages. -/
inductive Side where
  | primary
  | fallback
deriving DecidableEq

/-- Something that can be switched on and off. -/
inductive Switch where
  | failReads
  | failUpdates
  | failCreates
  | loseNextReturn
  | failPrimary
  | failFallback
deriving DecidableEq

/-- A command that is yet to be made. -/
inductive NewCommand where
  | borrow (user : UserId) (book : BookId) (days : Option Int)
  | giveBack (user : UserId) (loan : LoanId)
deriving DecidableEq

/-- A command of the publish/subscribe server that can fail. -/
inductive PubSubCommand where
  | publish
  | subscribe
deriving DecidableEq

/-- A step of a rehearsal. -/
inductive Step where
  | pause
  | addBook (book : Book)
  | insertLoan (loan : Loan)
  | setClock (clock : Clock)
  | switch (which : Switch) (on : Bool)
  | inject (point : StorePoint) (text : Option String)
  | rejectSaves (on : Bool)
  | dispatch (message : Bytes)
  | handle (message : Bytes)
  | borrow (message : Bytes)
  | giveBack (message : Bytes)
  /-- Carry out commands side by side. Messages that hold no command are passed over. -/
  | concurrent (messages : List Bytes)
  | concurrentDispatch (messages : List Bytes)
  | publish (topic : String) (body : Bytes)
  | publishCommand (message : Bytes)
  | publishEvent (message : Bytes)
  | publishNew (new : NewCommand)
  /-- Hand an event to the sink that the desk uses. -/
  | emit (message : Bytes)
  /-- Dispatch what came on a transport since the last time. -/
  | consume (side : Side)
  /-- Listen to what came on a transport since the last time. -/
  | listen (side : Side)
  | deliver (message : Bytes)
  | callStore (call : StoreCall)
  | createLoan (user : UserId) (book : BookId) (days : Option Int)
  | markReturned (loan : LoanId) (user : UserId)
  | brokerRefuse (refusal : Refusal)
  | brokerConfirm (mode : ConfirmMode)
  | brokerPublish (topic : String) (body : Bytes)
  | brokerCommands (prefetch : Nat)
  | brokerEvents
  | brokerDeliver (messages : List Bytes)
  | brokerDeliverEvents (messages : List Bytes)
  | brokerClose
  /-- The broker closes the connection, a message having been delivered just before. -/
  | brokerDrop (message : Option Bytes)
  | pubSubPublish (topic : String) (body : Bytes)
  | pubSubReceivers (count : Int)
  | pubSubFail (command : PubSubCommand) (fault : Option PubSubFault)
  | pubSubCommands
  | pubSubEvents
  | pubSubDown
  | pubSubPush (channel : String) (messages : List Bytes)
deriving DecidableEq

/-! ## Results -/

/-- What a step comes to. -/
inductive Result where
  | nothing
  /-- The message holds no command or event. -/
  | undecodable
  | disposition (d : Disposition)
  | dispositions (ds : List Disposition)
  | outcome (o : PublishOutcome)
  | lent (loan : Loan)
  | returned (outcome : Lending.ReturnOutcome)
  | failed (failure : Failure)
  | sideBySide (results : List Result)
  | delivered (decodable : Bool)
  | listened (delivered : List Bool) (handled : List Event)
  | outOfRange (days : Int)
  | foundBook (book : Option Book)
  | foundLoan (loan : Option Loan)
  | created (loan : Loan)
  | answered (yes : Bool)
  | storeFailed (error : StoreError)
  | transport (result : Except TransportError Unit)
  | settlements (list : List Broker.Settlement)
  | handled (events : List Event)
  | noConsumer
  | noSubscriber
  /-- So many tasks have ended. -/
  | ended (tasks : Nat)
  | pushed (handled : List Event)
  /-- The rehearsal has no such transport. -/
  | noTransport

namespace Result

/-- The result of a call to the stores. -/
def ofStore : (c : StoreCall) → c.Answer → Result
  | _, .error e => storeFailed e
  | .findBook _, .ok book => foundBook book
  | .saveBook _, .ok saved => answered saved
  | .findLoan _, .ok loan => foundLoan loan
  | .createLoan _, .ok loan => created loan
  | .markReturned .., .ok marked => answered marked
  | .hasActiveLoan .., .ok active => answered active

/-- The result of a command to borrow. -/
def ofBorrow : Except Failure Loan → Result
  | .ok loan => lent loan
  | .error failure => failed failure

/-- The result of a command to return. -/
def ofGiveBack : Except Failure Lending.ReturnOutcome → Result
  | .ok o => returned o
  | .error failure => failed failure

end Result

end Circulation.Rehearsal
