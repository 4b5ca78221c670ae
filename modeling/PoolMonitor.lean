import PoolMonitor.Data.Dict
import PoolMonitor.Number.Binary64
import PoolMonitor.Decimal.Shortest
import PoolMonitor.Text.Ranges
import PoolMonitor.Text.Blank
import PoolMonitor.Text.Lower
import PoolMonitor.Text.Printable
import PoolMonitor.Text.Quoted
import PoolMonitor.Text.Utf8
import PoolMonitor.Decimal.Layout
import PoolMonitor.Json.Value
import PoolMonitor.Json.Write
import PoolMonitor.Json.Error
import PoolMonitor.Json.Cursor
import PoolMonitor.Json.Read
import PoolMonitor.Json.Deserializer
import PoolMonitor.Wire.Keys
import PoolMonitor.Wire.Object
import PoolMonitor.Wire.Response
import PoolMonitor.Wire.Request
import PoolMonitor.Discovery.Address
import PoolMonitor.Discovery.Query
import PoolMonitor.Discovery.Answer
import PoolMonitor.Time.Duration
import PoolMonitor.Link.Backoff
import PoolMonitor.Link.Endpoint
import PoolMonitor.Discovery.Interface
import PoolMonitor.Discovery.Rediscovery
import PoolMonitor.Decimal.Read
import PoolMonitor.Text.Infix
import PoolMonitor.Equipment.Classify
import PoolMonitor.Equipment.Tracker
import PoolMonitor.Equipment.Reading
import PoolMonitor.Equipment.State
import PoolMonitor.Equipment.Minder
import PoolMonitor.Equipment.Sweep
import PoolMonitor.Settings.Tree
import PoolMonitor.Settings.Toml
import PoolMonitor.Settings.Environment
import PoolMonitor.Settings.Reader
import PoolMonitor.Discovery.Search
import PoolMonitor.Link.Correlator
import PoolMonitor.Config.Schema
import PoolMonitor.Config.Load
import PoolMonitor.Config.View
import PoolMonitor.Link.Fault
import PoolMonitor.Link.Scripted
import PoolMonitor.Link.Connection
import PoolMonitor.Bench.Connection
import PoolMonitor.Bench.Poller
import PoolMonitor.Link.Framing
import PoolMonitor.Main
import PoolMonitor.Poller.Calls
import PoolMonitor.Poller.Tasks
import PoolMonitor.Proofs.DictLaws
import PoolMonitor.Proofs.ObjectCache
import PoolMonitor.Proofs.ReadingKeys
import PoolMonitor.Proofs.Idempotence
import PoolMonitor.Proofs.MinderRuns
import PoolMonitor.Proofs.ResponseWait
import PoolMonitor.Proofs.Rebuild
import PoolMonitor.Proofs.FirstSightings
import PoolMonitor.Proofs.PollerMoves
import PoolMonitor.Proofs.UpdateStream
import PoolMonitor.Proofs.RediscoveryLatch
import PoolMonitor.Proofs.PushForwarding
import PoolMonitor.Proofs.RetargetStall
import PoolMonitor.Proofs.ReadingMaps
import PoolMonitor.Proofs.ExchangeEffects
import PoolMonitor.Proofs.LinkHealth
import PoolMonitor.Proofs.PendingRequests
import PoolMonitor.Proofs.InstantOverflow
import PoolMonitor.Proofs.NameWalk
import PoolMonitor.Proofs.QueryAnswer
import PoolMonitor.Proofs.AnswerMatch
import PoolMonitor.Proofs.ConnectSchedule
import PoolMonitor.Proofs.TrackerHistory
import PoolMonitor.Proofs.DerivationPasses
import PoolMonitor.Proofs.SharedHeaters
import PoolMonitor.Proofs.CircuitRouting
import PoolMonitor.Proofs.JsonTexts
import PoolMonitor.Proofs.TokenSkipping
import PoolMonitor.Proofs.ValueSkipping
import PoolMonitor.Proofs.ChunkedFrames
import PoolMonitor.Proofs.NameEnd
import PoolMonitor.Proofs.SweepPrefix
import PoolMonitor.Proofs.AddressHandOff
import PoolMonitor.Proofs.JsonMeaning
import PoolMonitor.Proofs.TokenReading
import PoolMonitor.Proofs.ValueReading
import PoolMonitor.Proofs.DeserializerLaws
import PoolMonitor.Proofs.ObjectReading
import PoolMonitor.Proofs.ResponseDecoding
