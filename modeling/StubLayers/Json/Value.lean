/-!
The values of a JSON text. A string may hold half of a character that takes two escapes; it is then
no text, and `none` stands for it.
-/

namespace StubLayers.Json

inductive Value where
  | null
  | bool (b : Bool)
  | int (n : Int)
  | float (x : Float)
  | string (text : Option String)
  | array (items : List Value)
  /-- The members in order, also those whose name comes again. -/
  | object (members : List (Option String × Value))
deriving Inhabited

/-- The value of a name among members: the last one counts. -/
def member? (members : List (Option String × Value)) (name : String) : Option Value :=
  (members.reverse.find? fun m => m.1 = some name).map (·.2)

end StubLayers.Json
