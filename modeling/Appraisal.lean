import Appraisal.Bytes
import Appraisal.Cbor.Head
import Appraisal.Cbor.Value
import Appraisal.Certificate
import Appraisal.Cose.Header
import Appraisal.Cose.Registry
import Appraisal.Cose.Sign1
import Appraisal.Der.Element
import Appraisal.Der.Primitive
import Appraisal.Der.Time
import Appraisal.Dialogue
import Appraisal.Error
import Appraisal.Evidence.Collect
import Appraisal.Evidence.Document
import Appraisal.Evidence.Encrypted
import Appraisal.Fetch.FileStore
import Appraisal.Fetch.Locator
import Appraisal.Fetch.Session
import Appraisal.Idna.ContextTable
import Appraisal.Idna.Domain
import Appraisal.Idna.Label
import Appraisal.Idna.MappingTable
import Appraisal.Idna.Punycode
import Appraisal.Json.Shape
import Appraisal.Json.Token
import Appraisal.Json.Value
import Appraisal.Manifest.Basic
import Appraisal.Manifest.Document
import Appraisal.Manifest.Origin
import Appraisal.Manifest.Resolve
import Appraisal.Measurement.Aggregate
import Appraisal.Measurement.Key
import Appraisal.Measurement.Mask
import Appraisal.Measurement.Value
import Appraisal.Proofs.Attestation
import Appraisal.Proofs.Cose.SignedBytes
import Appraisal.Proofs.Cost
import Appraisal.Proofs.Der.Grammar
import Appraisal.Proofs.Der.Primitive
import Appraisal.Proofs.Evidence.Acceptance
import Appraisal.Proofs.Evidence.Determinacy
import Appraisal.Proofs.Evidence.Gates
import Appraisal.Proofs.Evidence.Opening
import Appraisal.Proofs.Fetch.Files
import Appraisal.Proofs.Golden
import Appraisal.Proofs.Json.Likeness
import Appraisal.Proofs.Manifest.Authenticity
import Appraisal.Proofs.Manifest.Bounds
import Appraisal.Proofs.Manifest.Expansion
import Appraisal.Proofs.Manifest.Formats
import Appraisal.Proofs.Manifest.Headers
import Appraisal.Proofs.Manifest.OptIn
import Appraisal.Proofs.Manifest.Parsing
import Appraisal.Proofs.Manifest.Provenance
import Appraisal.Proofs.Manifest.Revocation
import Appraisal.Proofs.Manifest.TopLevel
import Appraisal.Proofs.Manifest.Visit
import Appraisal.Proofs.Measurement.Comparison
import Appraisal.Proofs.Measurement.Digitwise
import Appraisal.Proofs.Measurement.Growth
import Appraisal.Proofs.Measurement.History
import Appraisal.Proofs.Measurement.Masking
import Appraisal.Proofs.Measurement.Merge
import Appraisal.Proofs.Measurement.Reordering
import Appraisal.Proofs.Measurement.Satisfaction
import Appraisal.Proofs.Measurement.Sorted
import Appraisal.Proofs.Persistence
import Appraisal.Proofs.Report.Agreement
import Appraisal.Proofs.Report.Blocks
import Appraisal.Proofs.Report.Conflicts
import Appraisal.Proofs.Report.Device
import Appraisal.Proofs.Report.Reading
import Appraisal.Proofs.Report.Spdm
import Appraisal.Proofs.TcbInfo.Extension
import Appraisal.Proofs.TcbInfo.Fields
import Appraisal.Proofs.Text.Hex
import Appraisal.Proofs.Text.Utf8
import Appraisal.Proofs.Transcript
import Appraisal.Proofs.Wire.Binding
import Appraisal.Proofs.Wire.Conversion
import Appraisal.Proofs.Wire.Coverage
import Appraisal.Proofs.Wire.Delimiting
import Appraisal.Proofs.Wire.Failures
import Appraisal.Proofs.Wire.Layout
import Appraisal.Proofs.Wire.Mirror
import Appraisal.Proofs.Wire.Navigation
import Appraisal.Proofs.Wire.Positions
import Appraisal.Proofs.Wire.Reader
import Appraisal.Proofs.Wire.RoundTrip
import Appraisal.Proofs.Wire.Separation
import Appraisal.Proofs.Wire.Sentinel
import Appraisal.Report.Device
import Appraisal.Report.Section
import Appraisal.Report.Spdm
import Appraisal.TcbInfo
import Appraisal.Text.Ascii
import Appraisal.Text.Base64
import Appraisal.Text.Blank
import Appraisal.Text.CodeTable
import Appraisal.Text.Composition
import Appraisal.Text.CompositionTable
import Appraisal.Text.GraphemeExtend
import Appraisal.Text.Hex
import Appraisal.Text.Quoted
import Appraisal.Text.Split
import Appraisal.Text.Unprintable
import Appraisal.Text.Utf8
import Appraisal.Url.Basic
import Appraisal.Url.Host
import Appraisal.Url.Ipv4
import Appraisal.Url.Ipv6
import Appraisal.Url.Parser
import Appraisal.Url.Percent
import Appraisal.Verdict
import Appraisal.Verification
import Appraisal.Wire.ByteOrder
import Appraisal.Wire.Convert
import Appraisal.Wire.Cursor
import Appraisal.Wire.DeviceHeader
import Appraisal.Wire.Error
import Appraisal.Wire.Field
import Appraisal.Wire.Format
import Appraisal.Wire.GetMeasurement
import Appraisal.Wire.Kind
import Appraisal.Wire.Reader
import Appraisal.Wire.Sigma
import Appraisal.Wire.SigmaEnc
import Appraisal.Wire.Signature
import Appraisal.Wire.SpdmCertificate
