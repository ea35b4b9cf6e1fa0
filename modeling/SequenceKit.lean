import SequenceKit.Derive.Implementation
import SequenceKit.Session.Run
import SequenceKit.Session.Set
import SequenceKit.Proofs.Sequence.Contents
import SequenceKit.Proofs.Sequence.Transparency
import SequenceKit.Proofs.Sequence.Backward
import SequenceKit.Proofs.Sequence.Lookup
import SequenceKit.Proofs.TypeName.Pass
import SequenceKit.Proofs.TypeName.Structure
import SequenceKit.Proofs.Sequence.Defaults
import SequenceKit.Proofs.Sequence.OwnMethods
import SequenceKit.Proofs.Sequence.EndReads
import SequenceKit.Proofs.Session.Meaning
import SequenceKit.Proofs.Session.History
import SequenceKit.Proofs.Sequence.Calls
import SequenceKit.Proofs.Sequence.Requests
import SequenceKit.Proofs.Sequence.Safety
import SequenceKit.Proofs.Generics.Separated
import SequenceKit.Proofs.Derive.Header
import SequenceKit.Proofs.Element.Lawful
import SequenceKit.Proofs.FiniteSet.Ascending
import SequenceKit.Proofs.Sequence.Faults
import SequenceKit.Proofs.Session.Slots
import SequenceKit.Proofs.FiniteSet.Agreement
import SequenceKit.Proofs.Sequence.Search
import SequenceKit.Proofs.Sequence.Occurrences
import SequenceKit.Proofs.Sequence.SignedIndex
import SequenceKit.Proofs.Sequence.Traces
import SequenceKit.Proofs.Sequence.Reads
import SequenceKit.Proofs.TypeName.Brackets
import SequenceKit.Proofs.TypeName.Lifetimes
import SequenceKit.Proofs.TypeName.Constants
import SequenceKit.Proofs.TypeName.Runs
import SequenceKit.Proofs.TypeName.Remembered
import SequenceKit.Proofs.Sequence.NestedViews
import SequenceKit.Proofs.Grammar.Passage
import SequenceKit.Proofs.Grammar.AngleBrackets
import SequenceKit.Proofs.Derive.Newtype
