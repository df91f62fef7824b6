import CompileWorker.Numeral.Double

namespace CompileWorker.Toml

inductive Value
  | string (text : String)
  | integer (n : Int)
  /-- none if it is no finite number -/
  | float (number : Option Double)
  | boolean (b : Bool)
  | dateTime (text : String)
  | array (items : List Value)
  | table (members : List (String × Value))
  deriving Repr

end CompileWorker.Toml
