import LateBound.Integer64
import LateBound.OrderedMap
import LateBound.Decimal.Layout
import LateBound.Decimal.Reader
import LateBound.Text.Blank
import LateBound.Text.CaseMap
import LateBound.Text.Search
import LateBound.Failure
import LateBound.DeclaredType
import LateBound.Number
import LateBound.Value.Identity
import LateBound.Value.Key
import LateBound.Signature
import LateBound.World
import LateBound.Overload
import LateBound.BuiltinMembers
import LateBound.Preview
import LateBound.Member
import LateBound.Index
import LateBound.Operator
import LateBound.Host.Blueprint
import LateBound.Debug
import LateBound.Environment
import LateBound.Proofs.Resolution
import LateBound.Proofs.ArgumentBinding
import LateBound.Proofs.Invocation
import LateBound.Proofs.ErrorOperand
import LateBound.Proofs.OrderedMap
import LateBound.Proofs.Scene
import LateBound.Proofs.Stability
import LateBound.Proofs.HostData
import LateBound.Proofs.TypedWrite
import LateBound.Proofs.BuiltinCall
import LateBound.Proofs.ContainerTyping
import LateBound.Proofs.DictCall
import LateBound.Proofs.DictEnumeration
import LateBound.Proofs.DictLookup
import LateBound.Proofs.DictHistory
import LateBound.Proofs.Dispatch
import LateBound.Proofs.Held
import LateBound.Proofs.Exclusivity
import LateBound.Proofs.Forwarding
import LateBound.Proofs.Declaration
import LateBound.Proofs.MemberResolution
import LateBound.Proofs.HostRepresentation
import LateBound.Proofs.MemberWrite
import LateBound.Proofs.MemberReturn
import LateBound.Proofs.HostRoundTrip
import LateBound.Proofs.Validation
import LateBound.Proofs.Completion
import LateBound.Proofs.ListCall
import LateBound.Proofs.ListHistory
import LateBound.Proofs.Construction
import LateBound.Proofs.Binary
import LateBound.Proofs.Boxing
import LateBound.Proofs.ListSearch
import LateBound.Proofs.BuiltinRefusal
import LateBound.Proofs.Arithmetic
import LateBound.Proofs.Preview
import LateBound.Proofs.PreviewWriter
import LateBound.Proofs.PreviewDependence
import LateBound.Proofs.TextViews
import LateBound.Proofs.TextSplit
import LateBound.Proofs.ScalarText
import LateBound.Proofs.Freezing
import LateBound.Proofs.Rounding
import LateBound.Proofs.FloatOrder
import LateBound.Proofs.Widening
import LateBound.Proofs.Comparison
import LateBound.Proofs.HostEquality
import LateBound.Proofs.FloatIndex
import LateBound.Proofs.DecimalRounding
import LateBound.Proofs.DecimalReading
import LateBound.Proofs.ShortestDecimal
import LateBound.Proofs.FloatReading
import LateBound.Proofs.FloatText
import LateBound.Proofs.Quotation
import LateBound.Proofs.CaseMapping
