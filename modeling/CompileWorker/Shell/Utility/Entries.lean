import CompileWorker.Shell.Utility.Basic

namespace CompileWorker.Shell.Utility

open Act

def eachOperand (operands : List Chars) (body : Chars → Act Bool) : Act Unit := do
  let mut status := 0
  for operand in operands do
    if !(← body operand) then status := 1
  answer status

def requireOperands (name : String) (o : Options) (body : Act Unit) : Act Unit :=
  if o.operands.isEmpty then misuse name (if name = "touch" then "missing file operand"
  else "missing operand") 1
  else body

def refuse (name what : String) (path : Chars) (e : SystemError) : Act Bool := do
  complain name (what ++ " " ++ quoted path ++ ": " ++ describe e)
  return false

def touch (words : List Chars) : Act Unit :=
  withOptions "touch" "acm" "dtr" words fun o ↦ requireOperands "touch" o <|
    eachOperand o.operands fun path ↦ do
    match ← locate path with
    | .error e => refuse "touch" "cannot touch" path e
    | .ok names =>
      let fs ← look
      if (fs.node? names).isNone && !o.has 'c' then store (fs.put names (.file []))
      return true

def rm (words : List Chars) : Act Unit :=
  withOptions "rm" "rfRiv" "" words fun o ↦ do
    if o.operands.isEmpty && o.has 'f' then return ← answer 0
    requireOperands "rm" o <| eachOperand o.operands fun path ↦ do
      match ← resolve path with
      | .error e => if o.has 'f' then return true else refuse "rm" "cannot remove" path e
      | .ok names =>
        let fs ← look
        if fs.node? names = some .directory && !o.has 'r' && !o.has 'R' then
          refuse "rm" "cannot remove" path .isADirectory
        else
          store (fs.remove names)
          return true

def mkdir (words : List Chars) : Act Unit :=
  withOptions "mkdir" "pv" "m" words fun o ↦ requireOperands "mkdir" o <|
    eachOperand o.operands fun path ↦ do
    if o.has 'p' then
      make (((path.splitOnP (· = '/')).zipIdx.map fun (_, i) ↦
        List.intercalate ['/'] ((path.splitOnP (· = '/')).take (i + 1))).filter (!·.isEmpty))
    else
      match ← locate path with
      | .error e => refuse "mkdir" "cannot create directory" path e
      | .ok names =>
        let fs ← look
        if (fs.node? names).isSome then refuse "mkdir" "cannot create directory" path (.ofNumber 17)
        else
          store (fs.put names .directory)
          return true
where
  make : List Chars → Act Bool
    | [] => return true
    | path :: paths => do
      match ← locate path with
      | .error e => refuse "mkdir" "cannot create directory" path e
      | .ok names =>
        let fs ← look
        match fs.node? names with
        | some .directory => make paths
        | some (.file _) =>
          refuse "mkdir" "cannot create directory" path
            (.ofNumber (if paths.isEmpty then 17 else 20))
        | none =>
          store (fs.put names .directory)
          make paths

def rmdir (words : List Chars) : Act Unit :=
  withOptions "rmdir" "pv" "" words fun o ↦ requireOperands "rmdir" o <|
    eachOperand o.operands fun path ↦ do
    match ← resolve path with
    | .error e => refuse "rmdir" "failed to remove" path e
    | .ok names =>
      let fs ← look
      if fs.node? names ≠ some .directory then refuse "rmdir" "failed to remove" path .notADirectory
      else if !(fs.namesIn names).isEmpty then refuse "rmdir" "failed to remove" path (.ofNumber 39)
      else
        store (fs.remove names)
        return true

/-- All entries at and under a place, put under another. -/
def transplant (fs : Files) (source target : List String) : Files :=
  let moved := fs.entries.filter fun (names, _) ↦ source.isPrefixOf names
  moved.reverse.foldl (fun fs (names, node) ↦ fs.put (target ++ names.drop source.length) node) fs

def relocate (name : String) (o : Options) (place : List String → List String → Chars → Act Bool) :
    Act Unit := do
  match o.operands.reverse with
  | [] => misuse name "missing file operand" 1
  | [path] => misuse name ("missing destination file operand after " ++ quoted path) 1
  | target :: sources => eachOperand sources.reverse fun path ↦ do
    match ← resolve path with
    | .error e => refuse name "cannot stat" path e
    | .ok source =>
      match ← locate target with
      | .error e =>
        complain name ("cannot create regular file " ++ quoted target ++ ": " ++ describe e)
        return false
      | .ok names =>
        let isInside := (← look).node? names = some .directory
        place source (if isInside then names ++ source.getLast?.toList else names) path

def mv (words : List Chars) : Act Unit :=
  withOptions "mv" "fnv" "" words fun o ↦ relocate "mv" o fun source target _ ↦ do
    let fs ← look
    if source = target then return true
    store ((transplant (fs.remove target) source target).remove source)
    return true

def cp (words : List Chars) : Act Unit :=
  withOptions "cp" "rRfapnv" "" words fun o ↦ relocate "cp" o fun source target path ↦ do
    let fs ← look
    if fs.node? source = some .directory && !o.has 'r' && !o.has 'R' && !o.has 'a' then
      complain "cp" ("-r not specified; omitting directory " ++ quoted path)
      return false
    store (transplant fs source target)
    return true

def ls (words : List Chars) : Act Unit :=
  withOptions "ls" "1aAdlrtFR" "" words fun o ↦ do
    let paths := (if o.operands.isEmpty then [['.']] else o.operands).mergeSort fun a b ↦
      decide (String.ofList a ≤ String.ofList b)
    let mut status := 0
    let mut found : List (Chars × List String) := []
    for path in paths do
      match ← resolve path with
      | .ok names => found := found ++ [(path, names)]
      | .error e =>
        let _ ← refuse "ls" "cannot access" path e
        status := 2
    let fs ← look
    let isListed (names : List String) : Bool := fs.node? names = some .directory && !o.has 'd'
    let plain := found.filter fun (_, names) ↦ !isListed names
    for (path, _) in plain do put (path ++ ['\n'])
    let mut isFirst := plain.isEmpty
    for (path, names) in found.filter fun (_, names) ↦ isListed names do
      if 1 < paths.length then put ((if isFirst then [] else ['\n']) ++ path ++ [':', '\n'])
      isFirst := false
      let inside := (if o.has 'a' then [".", ".."] else []) ++ fs.namesIn names
      for name in if o.has 'r' then inside.reverse else inside do
        if o.has 'a' || o.has 'A' || !name.startsWith "." then put (ofText name ++ ['\n'])
    answer status

def dropSlashes (path : Chars) : Chars := (path.reverse.dropWhile (· = '/')).reverse

def baseName (path : Chars) : Chars :=
  if !path.isEmpty && path.all (· = '/') then ['/']
  else ((dropSlashes path).reverse.takeWhile (· ≠ '/')).reverse

def directoryName (path : Chars) : Chars :=
  let way := ((dropSlashes path).reverse.dropWhile (· ≠ '/')).reverse
  if way.isEmpty then (if path.head? = some '/' then ['/'] else ['.'])
  else if way.all (· = '/') then ['/'] else dropSlashes way

def basename (words : List Chars) : Act Unit := do
  match words.filter (· ≠ ['-', '-']) with
  | [] => misuse "basename" "missing operand" 1
  | path :: rest =>
    let name := baseName path
    let ending := rest.head?.getD []
    let name :=
      if ending ≠ name && ending.isSuffixOf name then name.take (name.length - ending.length)
      else name
    put (name ++ ['\n'])
    answer 0

def dirname (words : List Chars) : Act Unit := do
  match words.filter (· ≠ ['-', '-']) with
  | [] => misuse "dirname" "missing operand" 1
  | paths =>
    for path in paths do put (directoryName path ++ ['\n'])
    answer 0

end CompileWorker.Shell.Utility
