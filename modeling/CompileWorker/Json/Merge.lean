import CompileWorker.Json.Basic

namespace CompileWorker.Json

mutual

def merge (base : Json) : Json → Json
  | .object overrides =>
    match base with
    | .object members => .object (mergeMembers members overrides)
    | _ => .object overrides
  | overlay => overlay

def mergeMembers (members : List (String × Json)) : List (String × Json) → List (String × Json)
  | [] => members
  | (name, j) :: overrides =>
    let merged := match members.lookup name with
      | some existing => merge existing j
      | none => j
    mergeMembers (Sorted.put name merged members) overrides

end

def mergeLayers : List Json → Json
  | [] => .null
  | base :: layers => layers.foldl merge base

end CompileWorker.Json
