import MaskedInput.Live.Form
import MaskedInput.Main
import MaskedInput.Proofs.Memo.Unobservable
import MaskedInput.Proofs.Clearing.Lead
import MaskedInput.Proofs.Clearing.RoundTrip
import MaskedInput.Proofs.Live.CleanEditing
import MaskedInput.Proofs.Live.Reentrancy
import MaskedInput.Proofs.Live.Sessions
import MaskedInput.Proofs.Live.FixedLead
import MaskedInput.Proofs.Clearing.LeadApart
import MaskedInput.Proofs.Live.Typing
import MaskedInput.Proofs.Live.Echoes
import MaskedInput.Proofs.Live.LateEchoes
import MaskedInput.Proofs.Live.Erasing
import MaskedInput.Proofs.Live.Overflow
import MaskedInput.Proofs.Clearing.Behind
import MaskedInput.Proofs.Extraction.Preference
import MaskedInput.Proofs.Clearing.Rereading
import MaskedInput.Proofs.Live.Remembering
import MaskedInput.Proofs.Live.Inserting
import MaskedInput.Proofs.Live.Pasts
import MaskedInput.Proofs.Live.Failing
import MaskedInput.Proofs.Live.Courses
import MaskedInput.Proofs.Cli.Output
import MaskedInput.Proofs.Formatting.ClosedForm
import MaskedInput.Proofs.Formatting.Twice
import MaskedInput.Proofs.Extraction.Accounting
import MaskedInput.Proofs.Mask.Inference
import MaskedInput.Proofs.Mask.Grammar
import MaskedInput.Proofs.Mask.Positions
