import Bacnet.Address
import Bacnet.AddressCache
import Bacnet.Allocation
import Bacnet.Announcements
import Bacnet.Apdu
import Bacnet.AppData
import Bacnet.ArrayReads
import Bacnet.Bbmd
import Bacnet.Bindings
import Bacnet.Bvlc
import Bacnet.Bvll
import Bacnet.CString
import Bacnet.CacheFile
import Bacnet.CachedAddresses
import Bacnet.Capacity
import Bacnet.Checked
import Bacnet.Client
import Bacnet.Completion
import Bacnet.Concurrent
import Bacnet.Connections
import Bacnet.Correlation
import Bacnet.DatagramFrame
import Bacnet.Decode
import Bacnet.Disconnection
import Bacnet.DiscoveredAddress
import Bacnet.Discovery
import Bacnet.DistributionTable
import Bacnet.Encode
import Bacnet.Encoding
import Bacnet.Epics
import Bacnet.EpicsComplete
import Bacnet.EpicsReads
import Bacnet.Exchange
import Bacnet.FailedSends
import Bacnet.Fidelity
import Bacnet.ForeignDevices
import Bacnet.Forwarding
import Bacnet.Frame
import Bacnet.History
import Bacnet.IAmBodies
import Bacnet.Invariants
import Bacnet.LateReplies
import Bacnet.Lib.Bits
import Bacnet.Lib.Flood
import Bacnet.Lib.Lease
import Bacnet.Lib.Machine
import Bacnet.Lib.Octets
import Bacnet.Lib.Probe
import Bacnet.Lib.Retry
import Bacnet.Lib.Table
import Bacnet.Management
import Bacnet.Misread
import Bacnet.NegativeReplies
import Bacnet.NetworkMessage
import Bacnet.Noninterference
import Bacnet.Npdu
import Bacnet.Overreads
import Bacnet.Payload
import Bacnet.Progress
import Bacnet.Properties
import Bacnet.Provenance
import Bacnet.ReadProperty
import Bacnet.Rebinding
import Bacnet.ReceiveBuffer
import Bacnet.Reconnection
import Bacnet.Registrations
import Bacnet.ReportedLengths
import Bacnet.Request
import Bacnet.Responses
import Bacnet.Retransmission
import Bacnet.RoundTrip
import Bacnet.Server
import Bacnet.Slots
import Bacnet.Steps
import Bacnet.Storms
import Bacnet.Sync
import Bacnet.System
import Bacnet.Tags
import Bacnet.Text
import Bacnet.Transactions
import Bacnet.Tsm
import Bacnet.Unicast
import Bacnet.UniqueMatch
import Bacnet.Value
import Bacnet.WhoIs
