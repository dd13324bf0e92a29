import CertGate.Advice
import CertGate.Asking
import CertGate.Deployment
import CertGate.Deployment.EnvFile.Template
import CertGate.Gate
import CertGate.Main
import CertGate.Octets.Der
import CertGate.Octets.Pem
import CertGate.Octets.Percent
import CertGate.Octets.Wide
import CertGate.Proofs.Advised
import CertGate.Proofs.Arguments
import CertGate.Proofs.Decided
import CertGate.Proofs.Decision
import CertGate.Proofs.Disclosure
import CertGate.Proofs.Encodings
import CertGate.Proofs.EnvFile
import CertGate.Proofs.Escaped
import CertGate.Proofs.Extraction
import CertGate.Proofs.FlagSources
import CertGate.Proofs.FlagWords
import CertGate.Proofs.Gathered
import CertGate.Proofs.Headers
import CertGate.Proofs.History
import CertGate.Proofs.IsoText
import CertGate.Proofs.LeafOnly
import CertGate.Proofs.Lifecycle
import CertGate.Proofs.MountPath
import CertGate.Proofs.NewFile
import CertGate.Proofs.Page
import CertGate.Proofs.PathForms
import CertGate.Proofs.Reported
import CertGate.Proofs.Rollout
import CertGate.Proofs.Startup
import CertGate.Proofs.Tightening
import CertGate.Proofs.Trail
import CertGate.Proofs.Usable
import CertGate.Proofs.Vouched
import CertGate.Proofs.Warned
import CertGate.Record
import CertGate.Request
import CertGate.Site
import CertGate.Summary
import CertGate.Text.Blank
import CertGate.Text.Decimal
import CertGate.Text.LowerCase
import CertGate.Text.Part
import CertGate.Text.Pieces
import CertGate.Text.Quoted
import CertGate.Time.Iso
import CertGate.Time.Moment
import CertGate.Value.Compare
import CertGate.Value.Show
