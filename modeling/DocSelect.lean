import DocSelect.Query.Session
import DocSelect.Query.Inspect
import DocSelect.Proofs.Compile.Alike
import DocSelect.Proofs.Compile.Arity
import DocSelect.Proofs.Compile.Expansions
import DocSelect.Proofs.Compile.Faults
import DocSelect.Proofs.Compile.Fluent
import DocSelect.Proofs.Compile.Grammar
import DocSelect.Proofs.Compile.MapEntry
import DocSelect.Proofs.Compile.NotIn
import DocSelect.Proofs.Compile.Operands
import DocSelect.Proofs.Compile.Records
import DocSelect.Proofs.Compile.Truth
import DocSelect.Proofs.Compile.WellFormed
import DocSelect.Proofs.Entries.Bindings
import DocSelect.Proofs.Filter.Complement
import DocSelect.Proofs.Path.Elision
import DocSelect.Proofs.Path.Segments
import DocSelect.Proofs.Pattern.Decoding
import DocSelect.Proofs.Pattern.Literal
import DocSelect.Proofs.Pattern.Wildcards
import DocSelect.Proofs.Query.Condition
import DocSelect.Proofs.Query.Conversation
import DocSelect.Proofs.Query.First
import DocSelect.Proofs.Query.History
import DocSelect.Proofs.Query.Lazy
import DocSelect.Proofs.Query.Log
import DocSelect.Proofs.Query.Paging
import DocSelect.Proofs.Query.Parameters
import DocSelect.Proofs.Query.Results
import DocSelect.Proofs.Query.Selection
import DocSelect.Proofs.Query.Unheard
import DocSelect.Proofs.Value.Faithful
