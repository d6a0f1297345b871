import DocQuery.Text.Blank
import DocQuery.Text.Lowercase

/-!
This module contains the comparison operators of filters and the tokens they are written as.
-/

namespace DocQuery

inductive Operator where
  | eq
  | ne
  | lt
  | lte
  | gt
  | gte
  | like
  | isIn
  | notIn
  | unknown (token : String)
deriving DecidableEq

namespace Operator

def ofToken (token : String) : Operator :=
  match token with
  | "=" => eq
  | "!=" => ne
  | "<>" => ne
  | "<" => lt
  | "<=" => lte
  | ">" => gt
  | ">=" => gte
  | "like" => like
  | "in" => isIn
  | "not in" => notIn
  | token => unknown token

def parse (token : String) : Operator := ofToken (Text.lowercase (Text.trim token))

def token : Operator → String
  | eq => "="
  | ne => "!="
  | lt => "<"
  | lte => "<="
  | gt => ">"
  | gte => ">="
  | like => "like"
  | isIn => "in"
  | notIn => "not in"
  | unknown token => token

end Operator
end DocQuery
