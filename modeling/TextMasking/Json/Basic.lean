/-!
# JSON values

Values as a JSON text has them: the members of an object are kept in order, and a name may come
twice; then the last member of the name is the one that counts. A number is kept as it is written.
-/

namespace TextMasking

/-- A JSON value. -/
inductive Json where
  | null
  | bool (b : Bool)
  | number (text : String)
  | string (s : String)
  | array (items : List Json)
  | object (members : List (String × Json))

namespace Json

/-- The value of the last member with a name. -/
def member? (members : List (String × Json)) (name : String) : Option Json :=
  members.reverse.lookup name

end Json

end TextMasking
