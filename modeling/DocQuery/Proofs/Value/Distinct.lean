import DocQuery.Value

/-!
This module contains the values that hold no field name twice in one document, which are all the values
a caller can build.
-/

namespace DocQuery
namespace Value

mutual

def hasDistinctNames : Value → Bool
  | .array items => itemsHaveDistinctNames items
  | .document fields => decide (Fields.names fields).Nodup && fieldsHaveDistinctNames fields
  | .codeWithScope _ scope => decide (Fields.names scope).Nodup && fieldsHaveDistinctNames scope
  | _ => true

def itemsHaveDistinctNames : List Value → Bool
  | [] => true
  | item :: rest => item.hasDistinctNames && itemsHaveDistinctNames rest

def fieldsHaveDistinctNames : List (String × Value) → Bool
  | [] => true
  | (_, value) :: rest => value.hasDistinctNames && fieldsHaveDistinctNames rest

end

end Value
end DocQuery
