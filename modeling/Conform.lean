import Conform.Issue.Display
import Conform.Session
import Conform.Value.Reader
import Conform.Proofs.Checked
import Conform.Proofs.Induction
import Conform.Proofs.Composite
import Conform.Proofs.Issue.Relabel
import Conform.Proofs.Issue.Tree
import Conform.Proofs.Leaf
import Conform.Proofs.Aggregation
import Conform.Proofs.Counter
import Conform.Proofs.Location
import Conform.Proofs.Binary64
import Conform.Proofs.Reparse
import Conform.Proofs.Correspondence
import Conform.Proofs.Correspondence.Schema
import Conform.Proofs.Reordering
import Conform.Proofs.Relocation
import Conform.Proofs.Machine
import Conform.Proofs.Machine.Termination
import Conform.Proofs.Targets
import Conform.Proofs.Machine.Answer
import Conform.Proofs.Memory
import Conform.Proofs.Alternation
import Conform.Proofs.Issue.WellFormed
import Conform.Proofs.Collection
import Conform.Proofs.Coercion
import Conform.Proofs.Membership
import Conform.Proofs.Calendar
import Conform.Proofs.Digits
import Conform.Proofs.Timestamp
import Conform.Proofs.Date
import Conform.Proofs.Duplicates
import Conform.Proofs.FirstOccurrences
import Conform.Proofs.Rounding
import Conform.Proofs.Numeral
import Conform.Proofs.Value.Text
import Conform.Proofs.Uniqueness
import Conform.Proofs.Requirements
import Conform.Proofs.Shift
import Conform.Proofs.Offset
import Conform.Proofs.Parity
import Conform.Proofs.Rendering
import Conform.Proofs.Keyed
import Conform.Proofs.UnknownKeys
import Conform.Proofs.Partial
import Conform.Proofs.Splitting
import Conform.Proofs.Readable
import Conform.Proofs.Derivation
import Conform.Proofs.Limit
import Conform.Proofs.Ranking
import Conform.Proofs.Precedence
import Conform.Proofs.LeftRecursion
import Conform.Proofs.Hooks
import Conform.Proofs.Pattern.Meaning
import Conform.Proofs.Mail
import Conform.Proofs.Initialization
import Conform.Proofs.Identifier
import Conform.Proofs.Issue.Display
import Conform.Proofs.Wrapping
import Conform.Proofs.DateSlots
import Conform.Proofs.Multiple
import Conform.Proofs.Grouping
import Conform.Proofs.Issue.Semigroup
import Conform.Proofs.TitleCase
