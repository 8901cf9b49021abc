import Mishap.Fault.Describe
import Mishap.Main
import Mishap.Params.Edition
import Mishap.Proofs.Template.Diagnostic
import Mishap.Proofs.Template.Resolution
import Mishap.Proofs.Template.Levels
import Mishap.Proofs.Template.Composition
import Mishap.Proofs.Template.RoundTrip
import Mishap.Transfer.Reader
import Mishap.Transfer.Writer
import Mishap.Proofs.Fault.Drafts
import Mishap.Proofs.Fault.Scopes
import Mishap.Proofs.Fault.History
import Mishap.Proofs.Fault.View
import Mishap.Proofs.Fault.Boxes
import Mishap.Proofs.Fault.Modification
import Mishap.Proofs.Fault.Identity
import Mishap.Proofs.Fault.Tracing
import Mishap.Proofs.Fault.Places
import Mishap.Proofs.Fault.Construction
import Mishap.Proofs.Number.Binary32
import Mishap.Proofs.Record.Contents
import Mishap.Proofs.Fault.Projection
import Mishap.Proofs.Fault.Reattaching
import Mishap.Proofs.Template.Spans
import Mishap.Proofs.Template.Verbatim
import Mishap.Proofs.Transfer.Transport
import Mishap.Proofs.Template.Sharing
import Mishap.Proofs.Command.Agreement
import Mishap.Proofs.Params.Policies
import Mishap.Proofs.Record.Satisfaction
import Mishap.Proofs.Verb.Spelling
import Mishap.Proofs.Verb.Padding
import Mishap.Proofs.Verb.GeneralForm
import Mishap.Proofs.Transfer.Report
import Mishap.Proofs.Value.Normal
import Mishap.Proofs.Template.Consistency
