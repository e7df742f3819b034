import HostAddresses.Main
import HostAddresses.Report.Session
import HostAddresses.Proofs.AddressText
import HostAddresses.Proofs.Grouping
import HostAddresses.Proofs.Netmask
import HostAddresses.Proofs.Addresses
import HostAddresses.Proofs.Findings
import HostAddresses.Proofs.NameMap
import HostAddresses.Proofs.Collecting
import HostAddresses.Proofs.Entries
import HostAddresses.Proofs.Sockets
import HostAddresses.Proofs.Networks
import HostAddresses.Proofs.Prefixes
import HostAddresses.Proofs.Agreement
import HostAddresses.Proofs.Session
import HostAddresses.Proofs.ExitStatus
import HostAddresses.Proofs.Adapters
import HostAddresses.Proofs.Rearrangement
import HostAddresses.Proofs.Indistinguishable
import HostAddresses.Proofs.Json.Grammar
import HostAddresses.Proofs.Json.Reader
import HostAddresses.Proofs.Json.Completeness
import HostAddresses.Proofs.Json.Written
import HostAddresses.Proofs.ReportText
import HostAddresses.Proofs.Delivery
import HostAddresses.Proofs.Traversal
import HostAddresses.Proofs.MaskText
import HostAddresses.Proofs.Summarizing
import HostAddresses.Proofs.FirstFailure
import HostAddresses.Proofs.CommonForm
import HostAddresses.Proofs.Gathering
import HostAddresses.Proofs.AdapterRecords
import HostAddresses.Proofs.Events
import HostAddresses.Proofs.RunLog
import HostAddresses.Proofs.Json.Layout
import HostAddresses.Proofs.Numerals
import HostAddresses.Proofs.Pieces
import HostAddresses.Proofs.AddressGrammar
import HostAddresses.Proofs.ZeroRuns
import HostAddresses.Proofs.ReadBack
import HostAddresses.Proofs.MaskGrammar
import HostAddresses.Proofs.LongForm
import HostAddresses.Proofs.ShortForm
import HostAddresses.Proofs.Json.Lines
import HostAddresses.Proofs.Spelling
import HostAddresses.Proofs.Stopping
import HostAddresses.Proofs.LogLines
import HostAddresses.Proofs.LossyText
import HostAddresses.Proofs.Wording
