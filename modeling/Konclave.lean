import Konclave.Relay.Page
import Konclave.Relay.Acknowledgment
import Konclave.Daemon.AtMostOnce
import Konclave.Daemon.ReceiptOrder
import Konclave.Relay.ShortCodeRate
import Konclave.A2A.TaskStream
import Konclave.Domain.MembershipRuns
import Konclave.Daemon.ClaimedBatches
import Konclave.HostExtension.RecipePolls
import Konclave.A2A.ObserverRuns
import Konclave.Daemon.RepeatPairingTraffic
import Konclave.Daemon.PairingTolerance
import Konclave.A2A.TaskLists
import Konclave.A2A.IdentityDigests
import Konclave.Cryptographic.Statements
