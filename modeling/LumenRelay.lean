import LumenRelay.Lib.Machine
import LumenRelay.Lib.Change
import LumenRelay.Lib.Conversation
import LumenRelay.Installer.Provision
import LumenRelay.Installer.Redaction
import LumenRelay.Installer.Installation
import LumenRelay.Installer.ProjectName
import LumenRelay.Lib.Mirror
import LumenRelay.Py.Sample
import LumenRelay.Bot.Provision
import LumenRelay.Bot.Shutdown
import LumenRelay.Bot.Percentages
import LumenRelay.Bot.AssignmentSave
import LumenRelay.Bot.Callbacks
import LumenRelay.Bot.Desk
import LumenRelay.Bot.Confined
import LumenRelay.Bot.Delivery
import LumenRelay.Bot.Privilege
import LumenRelay.Bot.Replies
import LumenRelay.Bot.Cancel
import LumenRelay.Bot.Renewal
import LumenRelay.Bot.Wizard
import LumenRelay.State.Atomicity
import LumenRelay.State.TwoWay
import LumenRelay.State.CleanMove
import LumenRelay.State.Patch
import LumenRelay.Routing.RawTcp
import LumenRelay.Routing.FailClosed
import LumenRelay.Routing.RoundTrip
import LumenRelay.Routing.SniMap
import LumenRelay.Routing.Repository
import LumenRelay.Routing.Preferred
import LumenRelay.Routing.Coalescing
import LumenRelay.Routing.Reliability
import LumenRelay.Routing.OneTunnel
import LumenRelay.Routing.Listener
import LumenRelay.State.Load
import LumenRelay.State.TestResults
import LumenRelay.Session.IpLimit
import LumenRelay.Session.Accounting
import LumenRelay.Session.Quota
import LumenRelay.Session.Header
import LumenRelay.Session.Connect
import LumenRelay.Session.TurboSend
import LumenRelay.Session.Conservation
import LumenRelay.Session.SpeedLimit
import LumenRelay.Session.TurboReceive
import LumenRelay.Session.ReadChunk
import LumenRelay.Session.SocksTarget
import LumenRelay.Session.HappyEyeballs
import LumenRelay.Session.Interleave
import LumenRelay.Session.Upload
import LumenRelay.Session.Lifecycle
import LumenRelay.Bot.Polling
import LumenRelay.Bot.StoreFile
import LumenRelay.State.Tearing
import LumenRelay.Installer.HttpResponse
import LumenRelay.Routing.ProbeResponse
import LumenRelay.Installer.Concurrency
import LumenRelay.Installer.Answer
import LumenRelay.Updater.Credentials
