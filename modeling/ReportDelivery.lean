import ReportDelivery.Main
import ReportDelivery.Proofs.Delivery.Protocol
import ReportDelivery.Proofs.Numeric.Rounding
import ReportDelivery.Proofs.Text.Digits
import ReportDelivery.Proofs.Json.Number
import ReportDelivery.Proofs.Json.RoundTrip
import ReportDelivery.Proofs.Json.Reading
import ReportDelivery.Proofs.Value.Coerce
import ReportDelivery.Proofs.Record.RoundTrip
import ReportDelivery.Proofs.Report.RoundTrip
import ReportDelivery.Proofs.Record.Decode
import ReportDelivery.Proofs.Scan.Loading
import ReportDelivery.Proofs.Report.Assembly
import ReportDelivery.Proofs.Report.Document
import ReportDelivery.Proofs.Json.Visible
import ReportDelivery.Proofs.Gzip.RoundTrip
import ReportDelivery.Proofs.Text.Utf8
import ReportDelivery.Proofs.Command.FileSystem
import ReportDelivery.Proofs.Delivery.Packaging
import ReportDelivery.Proofs.Command.Build
import ReportDelivery.Proofs.Delivery.Directories
import ReportDelivery.Proofs.Delivery.Repeated
import ReportDelivery.Proofs.Delivery.Announcement
import ReportDelivery.Proofs.Delivery.Trouble
import ReportDelivery.Proofs.Scan.Refusal
import ReportDelivery.Proofs.Command.Inputs
import ReportDelivery.Proofs.Text.Blank
import ReportDelivery.Proofs.Scan.Repository
import ReportDelivery.Proofs.Report.Diagnostics
import ReportDelivery.Proofs.Delivery.Sufficiency
import ReportDelivery.Proofs.Command.Completion
import ReportDelivery.Proofs.Report.Degradation
import ReportDelivery.Proofs.Command.Agreement
import ReportDelivery.Proofs.Delivery.ApiKey
import ReportDelivery.Proofs.Delivery.Leftover
import ReportDelivery.Proofs.Text.Parts
import ReportDelivery.Proofs.Text.LineEnds
import ReportDelivery.Proofs.Path.NormalForm
import ReportDelivery.Proofs.Path.ReportName
import ReportDelivery.Proofs.Report.Parts
import ReportDelivery.Proofs.Delivery.Unnamed
import ReportDelivery.Proofs.Json.Steps
import ReportDelivery.Proofs.Json.Progress
import ReportDelivery.Proofs.Json.LineEnds
import ReportDelivery.Proofs.Scan.Format
import ReportDelivery.Proofs.Path.Spelling
import ReportDelivery.Proofs.Report.ReadAgain
import ReportDelivery.Proofs.Report.Translation
import ReportDelivery.Proofs.Collector.Upload
import ReportDelivery.Proofs.Value.Form
import ReportDelivery.Proofs.Collector.Offer
import ReportDelivery.Proofs.Report.Readers
import ReportDelivery.Proofs.Environment
import ReportDelivery.Proofs.Delivery.Host
import ReportDelivery.Proofs.Command.ExitCodes
import ReportDelivery.Proofs.Command.Summary
import ReportDelivery.Proofs.Log
import ReportDelivery.Proofs.Delivery.Verbosity
import ReportDelivery.Proofs.Command.Verbosity
import ReportDelivery.Proofs.Json.Nesting
import ReportDelivery.Proofs.Console
import ReportDelivery.Proofs.Delivery.Console
import ReportDelivery.Proofs.Command.Console
import ReportDelivery.Proofs.Command.Path
