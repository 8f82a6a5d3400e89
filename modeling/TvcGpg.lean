import TvcGpg.Lib.Text
import TvcGpg.Lib.Hex
import TvcGpg.Lib.Fallible
import TvcGpg.Lib.Logged
import TvcGpg.Lib.Attempts
import TvcGpg.Lib.Scans
import TvcGpg.Lib.OrderedChecks
import TvcGpg.Lib.NameIndex
import TvcGpg.Lib.FlatJson
import TvcGpg.Lib.JsonSizes
import TvcGpg.Lib.Separators
import TvcGpg.Lib.Lines
import TvcGpg.Lib.Buffers
import TvcGpg.Lib.HmacKey
import TvcGpg.Lib.Runs
import TvcGpg.Lib.Correspondence
import TvcGpg.Lib.FileSystem
import TvcGpg.Model.Rpgp
import TvcGpg.Model.Crates
import TvcGpg.Model.Allowlist
import TvcGpg.Model.Build
import TvcGpg.Model.SessionKey
import TvcGpg.Model.TeamKey
import TvcGpg.Model.TeamKeyExport
import TvcGpg.Model.Metrics
import TvcGpg.Model.Router
import TvcGpg.Model.Boot
import TvcGpg.Model.Service
import TvcGpg.Model.Client
import TvcGpg.Model.Gpg
import TvcGpg.Model.GpgProcess
import TvcGpg.Model.ClientRun
import TvcGpg.Model.Http
import TvcGpg.Model.ClientProcess
import TvcGpg.EndToEnd.Laws
import TvcGpg.Reference.OpenPgp
import TvcGpg.Reference.Crates
import TvcGpg.Allowlist.Read
import TvcGpg.Allowlist.KeyText
import TvcGpg.Allowlist.Classify
import TvcGpg.Allowlist.Index
import TvcGpg.Allowlist.Revocation
import TvcGpg.Allowlist.Monotone
import TvcGpg.Allowlist.Health
import TvcGpg.Allowlist.SelfSignatures
import TvcGpg.Allowlist.Joining
import TvcGpg.Release.Stages
import TvcGpg.Release.Checks
import TvcGpg.EndToEnd.HonestRun
import TvcGpg.Release.Replies
import TvcGpg.Release.Requester
import TvcGpg.Release.Expiry
import TvcGpg.EndToEnd.Agreement
import TvcGpg.EndToEnd.Receipts
import TvcGpg.Client.PacketWalk
import TvcGpg.Client.SessionKeyText
import TvcGpg.Client.Diagnostics
import TvcGpg.Client.GpgVerdict
import TvcGpg.Client.ReaderThread
import TvcGpg.Client.MessageFile
import TvcGpg.Client.Footprint
import TvcGpg.Client.Actions
import TvcGpg.Client.Traffic
import TvcGpg.Metrics.Series
import TvcGpg.TeamKey.Derivation
import TvcGpg.TeamKey.Export
import TvcGpg.Server.Start
import TvcGpg.Server.Boot
import TvcGpg.EndToEnd.Sizes
import TvcGpg.Server.Replies
import TvcGpg.Server.Accounts
import TvcGpg.Server.Supply
import TvcGpg.Server.Rollout
import TvcGpg.EndToEnd.OverHttp
import TvcGpg.EndToEnd.Sessions
import TvcGpg.EndToEnd.Progress
import TvcGpg.EndToEnd.Replays
import TvcGpg.EndToEnd.Secrecy
