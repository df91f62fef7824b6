import CompileWorker.Json.Basic
import CompileWorker.Toml.Document

namespace CompileWorker.Toml

def dateTimeMark : String := "$__toml_private_datetime"

mutual

def Value.toJson? : Value → Option Json
  | .string text => some (.string text)
  | .integer n => some (.int n)
  | .float (some x) => some (.number (.double x))
  | .float none => some .null
  | .boolean b => some (.bool b)
  | .dateTime text => some (.string text)
  | .array items => do return .array (← itemsToJson? items)
  | .table ((name, .string text) :: members) =>
    if name = dateTimeMark then (dateTimeOfText? text).map .string
    else do return .object (Json.sortMembers ((name, .string text) :: (← membersToJson? members)))
  | .table ((name, value) :: members) =>
    if name = dateTimeMark then none
    else do return .object (Json.sortMembers
      ((name, ← value.toJson?) :: (← membersToJson? members)))
  | .table [] => some (.object [])

def itemsToJson? : List Value → Option (List Json)
  | [] => some []
  | value :: items => do return (← value.toJson?) :: (← itemsToJson? items)

def membersToJson? : List (String × Value) → Option (List (String × Json))
  | [] => some []
  | (name, value) :: members => do return (name, ← value.toJson?) :: (← membersToJson? members)

end

def parse (text : String) : Option Json := (document text).bind Value.toJson?

end CompileWorker.Toml
