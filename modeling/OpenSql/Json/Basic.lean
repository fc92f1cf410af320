/-
# OpenSql.Json.Basic — values of the JSON data format.

An object is a list of members, in their order and with repetitions: a row with two columns of one
name has two members of that name.  Integers and other numbers are kept apart.
-/

namespace OpenSql

/-- A JSON value. -/
inductive Json where
  | null
  | bool (b : Bool)
  | integer (n : Int)
  | real (x : Float)
  | string (s : String)
  | array (elements : List Json)
  | object (members : List (String × Json))
deriving Inhabited

namespace Json

/-- A list of texts as an array. -/
def ofTexts (texts : List String) : Json := .array (texts.map .string)

end Json

end OpenSql
