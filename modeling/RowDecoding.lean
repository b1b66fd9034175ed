import RowDecoding.Mapping.Derive
import RowDecoding.Mapping.Query
import RowDecoding.Proofs.Absence
import RowDecoding.Proofs.Caching
import RowDecoding.Proofs.LateLookup
import RowDecoding.Proofs.LetterCase
import RowDecoding.Proofs.Words
import RowDecoding.Proofs.Recasing
import RowDecoding.Proofs.PlainNames
import RowDecoding.Proofs.Mirroring
import RowDecoding.Proofs.Recursion
import RowDecoding.Proofs.Assembling
import RowDecoding.Proofs.Decoding
import RowDecoding.Proofs.Escaping
import RowDecoding.Proofs.Requiring
import RowDecoding.Proofs.Deriving
import RowDecoding.Proofs.Validating
import RowDecoding.Proofs.Adapters
import RowDecoding.Proofs.BuildFailures
import RowDecoding.Proofs.FailedDerivation
import RowDecoding.Proofs.Determined
import RowDecoding.Proofs.Spared
import RowDecoding.Proofs.Provenance
import RowDecoding.Proofs.Inhabiting
import RowDecoding.Proofs.Merging
import RowDecoding.Proofs.Reordering
import RowDecoding.Proofs.Declaring
import RowDecoding.Proofs.Directives
import RowDecoding.Proofs.Locality
import RowDecoding.Proofs.Chaining
import RowDecoding.Proofs.Keeping
import RowDecoding.Proofs.SnakeCase
import RowDecoding.Proofs.Acronyms
import RowDecoding.Proofs.Spellings
import RowDecoding.Proofs.Boundaries
