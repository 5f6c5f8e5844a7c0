import FilterQuery.Dialect.Basic
import FilterQuery.Dialect.Relation
import FilterQuery.Text.JsonString

/-!
# Filter documents of MongoDB

A comparison is a document with the key as its member, a conjunction or disjunction a document with
the list of its parts. Keys are quoted as JSON strings; values are JSON as they stand in the query.
-/

namespace FilterQuery.Dialect

namespace Mongo

/-- The document with one member. -/
def member (name value : String) : String :=
  "\x7b" ++ String.ofList (JsonString.quote name.toList) ++ ":" ++ value ++ "\x7d"

/-- An array, given what stands between its brackets. -/
def array (elements : String) : String :=
  "[" ++ elements ++ "]"

/-- Writes a relation between a key and a value. -/
def compare (r : Relation) (key value : String) : String :=
  match r with
  | .equal => member key value
  | .unequal => member key (member "$ne" value)
  | .greater => member key (member "$gt" value)
  | .greaterOrEqual => member key (member "$gte" value)
  | .less => member key (member "$lt" value)
  | .lessOrEqual => member key (member "$lte" value)
  | .oneOf => member key (member "$in" (array value))
  | .noneOf => member key (member "$nin" (array value))

/-- Writes the document that joins some documents under a name. -/
def joined (name : String) (parts : List String) : String :=
  member name (array (String.intercalate "," parts))

end Mongo

/-- The dialect of MongoDB. -/
def mongo : Dialect where
  operators := Relation.operators Mongo.compare
  conjunction := Mongo.joined "$and"
  disjunction := Mongo.joined "$or"

end FilterQuery.Dialect
