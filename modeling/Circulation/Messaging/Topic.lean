/- # Circulation.Messaging.Topic -- topics and the errors of transports

Commands and events travel on a topic each. On a durable transport the topics are queues, which are
declared at the start, the events' queue first.
-/

namespace Circulation

namespace Topic

def loanCommands : String := "loan_commands"

def loanEvents : String := "loan_events"

/-- The queues that a durable transport declares, in this order. -/
def durable : List String := [loanEvents, loanCommands]

end Topic

/-- What a transport could not do, with the reason. -/
inductive TransportError where
  | connection (reason : String)
  | publish (reason : String)
  | subscribe (reason : String)
deriving DecidableEq, Inhabited

namespace TransportError

/-- What is said about a transport's error. -/
def message : TransportError → String
  | connection reason => "Connection failed: " ++ reason
  | publish reason => "Publish failed: " ++ reason
  | subscribe reason => "Subscribe failed: " ++ reason

end TransportError

end Circulation
