import VersionDispatch.Json.Codec
import VersionDispatch.Main
import VersionDispatch.Session
import VersionDispatch.Proofs.Lists
import VersionDispatch.Proofs.Text.Pieces
import VersionDispatch.Proofs.Text.Joined
import VersionDispatch.Proofs.Text.LastPlace
import VersionDispatch.Proofs.Text.Brackets
import VersionDispatch.Proofs.Version.Order
import VersionDispatch.Proofs.Version.Numbers
import VersionDispatch.Proofs.Version.Rendering
import VersionDispatch.Proofs.Criteria.Tokens
import VersionDispatch.Proofs.Criteria.Language
import VersionDispatch.Proofs.Criteria.RoundTrip
import VersionDispatch.Proofs.Criteria.Comparison
import VersionDispatch.Proofs.Criteria.SubRelease
import VersionDispatch.Proofs.Criteria.Interval
import VersionDispatch.Proofs.Criteria.Faults
import VersionDispatch.Proofs.Dispatch.Log
import VersionDispatch.Proofs.Dispatch.Equality
import VersionDispatch.Proofs.Dispatch.Coverage
import VersionDispatch.Proofs.Dispatch.Inventory
import VersionDispatch.Proofs.Dispatch.Path
import VersionDispatch.Proofs.Gate.TypeGate
import VersionDispatch.Proofs.Gate.Dispatcher
import VersionDispatch.Proofs.Gate.Agreement
import VersionDispatch.Proofs.Gate.ShortName
import VersionDispatch.Proofs.Gate.TypeName
import VersionDispatch.Proofs.Session.Ledger
import VersionDispatch.Proofs.Session.Call
import VersionDispatch.Proofs.Session.Log
import VersionDispatch.Proofs.Session.Refused
import VersionDispatch.Proofs.Json.Record
import VersionDispatch.Proofs.Json.Codec
import VersionDispatch.Proofs.GateTable
import VersionDispatch.Proofs.Command.Resolve
import VersionDispatch.Proofs.Command.Compare
import VersionDispatch.Proofs.Command.Directive
import VersionDispatch.Proofs.Command.LogFilter
import VersionDispatch.Proofs.Pattern.Reading
