import DocQuery.Pattern.Engine
import DocQuery.Pattern.Match
import DocQuery.Pattern.Parse

/-!
This module contains an engine for the common notation of patterns. It knows no properties of characters
beyond those with a letter of their own, and has one text for all that it refuses.
-/

namespace DocQuery
namespace Pattern

instance : Engine where
  compile flags pattern :=
    match parse? flags pattern with
    | some expr => .ok expr.isIn
    | none => .error "invalid regex"

end Pattern
end DocQuery
