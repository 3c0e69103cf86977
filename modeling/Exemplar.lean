import Exemplar.Files.Disk
import Exemplar.Main
import Exemplar.Proofs.Replacing
import Exemplar.Proofs.Outcomes
import Exemplar.Proofs.Traces
import Exemplar.Proofs.Descriptions
import Exemplar.Proofs.Gaps
import Exemplar.Proofs.Restoring
import Exemplar.Proofs.Loading
import Exemplar.Proofs.Reloading
import Exemplar.Proofs.Answering
import Exemplar.Proofs.Learning
import Exemplar.Proofs.Estimating
import Exemplar.Proofs.Histories
import Exemplar.Proofs.Targets
import Exemplar.Proofs.Signatures
import Exemplar.Proofs.Refining
import Exemplar.Proofs.Rebuilding
import Exemplar.Proofs.Comparing
import Exemplar.Proofs.Texts
import Exemplar.Proofs.Accepting
import Exemplar.Proofs.Datasets
import Exemplar.Proofs.NewKeys
import Exemplar.Proofs.Serving
import Exemplar.Proofs.RecordedInputs
import Exemplar.Proofs.Coercing
import Exemplar.Proofs.Gradients
import Exemplar.Proofs.Validating
import Exemplar.Proofs.Reclassifying
import Exemplar.Proofs.Parity
import Exemplar.Proofs.KeyPositions
import Exemplar.Proofs.Spellings
import Exemplar.Proofs.Inferring
import Exemplar.Proofs.Repeating
import Exemplar.Proofs.Recording
import Exemplar.Proofs.Drawing
import Exemplar.Proofs.Deciding
import Exemplar.Proofs.Selecting
import Exemplar.Proofs.Configuring
