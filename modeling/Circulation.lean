import Circulation.Correlation
import Circulation.Database.Store
import Circulation.Database.Table
import Circulation.Health
import Circulation.Proofs.Book
import Circulation.Proofs.Broker.Queue
import Circulation.Proofs.Broker.Settlement
import Circulation.Proofs.Database.StandIn
import Circulation.Proofs.Gate
import Circulation.Proofs.Lending.ActiveLoan
import Circulation.Proofs.Lending.Catalogue
import Circulation.Proofs.Lending.Delivery
import Circulation.Proofs.Lending.Drain
import Circulation.Proofs.Lending.DueDate
import Circulation.Proofs.Lending.Footprint
import Circulation.Proofs.Lending.LifeCycle
import Circulation.Proofs.Lending.Paths
import Circulation.Proofs.Lending.Permanence
import Circulation.Proofs.Lending.Race
import Circulation.Proofs.Lending.Redelivery
import Circulation.Proofs.Lending.ReturnOrder
import Circulation.Proofs.Lending.Round
import Circulation.Proofs.Lending.Routine
import Circulation.Proofs.Lending.Serial
import Circulation.Proofs.Lending.Stock
import Circulation.Proofs.Lending.StockRange
import Circulation.Proofs.Lending.Width
import Circulation.Proofs.Lending.Worker
import Circulation.Proofs.Messaging.Carrier
import Circulation.Proofs.Messaging.EventPath
import Circulation.Proofs.Messaging.Relay
import Circulation.Proofs.Messaging.Session
import Circulation.Proofs.Settings
import Circulation.Proofs.Store.Counter
import Circulation.Proofs.Store.Numbering
import Circulation.Proofs.Tape
import Circulation.Proofs.Time.Word
import Circulation.Proofs.Wire.Damage
import Circulation.Proofs.Wire.RoundTrip
import Circulation.Rehearsal.Session
import Circulation.Settings
import Circulation.Wire.Book
import Circulation.Wire.Loan
