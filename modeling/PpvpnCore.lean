import PpvpnCore.Translate.Closed
import PpvpnCore.Translate.Routing
import PpvpnCore.Translate.Users
import PpvpnCore.Translate.Mirror
import PpvpnCore.Engine.LocalProxy
import PpvpnCore.Engine.State
import PpvpnCore.Lib.Prog
import PpvpnCore.Engine.Task
import PpvpnCore.Engine.Network
import PpvpnCore.Engine.Switch
import PpvpnCore.Engine.Lifecycle
import PpvpnCore.Engine.Calls
import PpvpnCore.Lib.Pool
import PpvpnCore.Engine.Settled
import PpvpnCore.Engine.Alone
import PpvpnCore.Engine.Effect
import PpvpnCore.Engine.Between
import PpvpnCore.Engine.Delivery
import PpvpnCore.LocalProxy.Device
import PpvpnCore.LocalDns.Fresh
import PpvpnCore.TunRules.Guard
import PpvpnCore.TunRules.Netlink
import PpvpnCore.Account.Lives
import PpvpnCore.Account.Resume
import PpvpnCore.Account.Undisturbed
import PpvpnCore.Service.Hear
import PpvpnCore.Service.Private
import PpvpnCore.Service.Current
import PpvpnCore.Service.Stopped
import PpvpnCore.Service.Ipc
import PpvpnCore.Desktop.GivenBack
import PpvpnCore.Desktop.Agree
import PpvpnCore.Desktop.LeftAlone
import PpvpnCore.Desktop.EnhancedRuns
import PpvpnCore.Desktop.Controllers
import PpvpnCore.Translate.Without
import PpvpnCore.Probe.Entrance
import PpvpnCore.Desktop.Pushes
import PpvpnCore.Desktop.Published
import PpvpnCore.Desktop.SignedOut
import PpvpnCore.Cli.OwnDaemon
import PpvpnCore.Cli.Agreed
import PpvpnCore.Lib.Table
import PpvpnCore.Engine.Limiter
import PpvpnCore.Engine.LogPipe
import PpvpnCore.LocalDns.Usable
import PpvpnCore.Translate.Labels
import PpvpnCore.RuleSets.Pinned
import PpvpnCore.RuleSets.Srs
import PpvpnCore.Engine.Redaction
import PpvpnCore.RuleSets.OnDisk
import PpvpnCore.Engine.Closing
import PpvpnCore.Desktop.Registry
import PpvpnCore.Lib.Calendar
import PpvpnCore.Lib.Checked
import PpvpnCore.Engine.LogLine
import PpvpnCore.Desktop.Dates
import PpvpnCore.Engine.LogRead
import PpvpnCore.Account.Credentials
import PpvpnCore.Desktop.SpeedTest
import PpvpnCore.Account.Clocks
import PpvpnCore.Desktop.Clocks
import PpvpnCore.Desktop.ApplyPaths
import PpvpnCore.Lib.Archive
import PpvpnCore.Service.LogFile
