import DocQuery.Filter.Compile
import DocQuery.Projection
import DocQuery.Sorting

/-!
This module contains queries: what a read is about, which fields it returns, and in which order.
-/

namespace DocQuery

structure Query where
  selector : Selector := .all
  projection : Projection := .all
  order : SortOrder := .natural

namespace Query

def predicate (query : Query) : Document := query.selector.compile

def projection? (query : Query) : Option Document := query.projection.compile?

def order? (query : Query) : Option Document := query.order.compile?

def ofSelector (selector : Selector) : Query := { selector }

end Query
end DocQuery
