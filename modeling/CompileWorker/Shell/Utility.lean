import CompileWorker.Shell.Utility.Lines
import CompileWorker.Shell.Utility.Search
import CompileWorker.Shell.Utility.Editing
import CompileWorker.Shell.Utility.Entries
import CompileWorker.Shell.Utility.Numbers

namespace CompileWorker.Shell.Utility

open Act

def printenv (words : List Chars) : Act Unit := do
  let exported :=
    (← get).bindings.filterMap fun (name, v) ↦ if v.isExported then v.value.map (name, ·) else none
  if words.isEmpty then
    exported.forM fun (name, value) ↦ put (name ++ '=' :: value ++ ['\n'])
    answer 0
  else
    let found := words.filterMap fun name ↦ exported.lookup name
    found.forM fun value ↦ put (value ++ ['\n'])
    answer (if found.length = words.length then 0 else 1)

def echo (words : List Chars) : Act Unit := do
  let options := words.takeWhile fun word ↦
    1 < word.length && word.head? = some '-' && (word.drop 1).all "neE".toList.contains
  let text := List.intercalate [' '] (words.drop options.length)
  let (text, isOver) :=
    if options.any (·.contains 'e') then Format.unescape (text.length + 1) text else (text, false)
  put (if isOver || options.any (·.contains 'n') then text else text ++ ['\n'])
  answer 0

def find? (name : String) : Option (List Chars → Act Unit) :=
  match name with
  | "cat" => some cat
  | "head" => some head
  | "tail" => some tail
  | "wc" => some wc
  | "sort" => some sort
  | "uniq" => some uniq
  | "tac" => some tac
  | "rev" => some rev
  | "tee" => some tee
  | "cut" => some cut
  | "paste" => some paste
  | "tr" => some tr
  | "grep" => some (search "grep" false false)
  | "egrep" => some (search "grep" true false)
  | "fgrep" => some (search "grep" false true)
  | "sed" => some sed
  | "touch" => some touch
  | "rm" => some rm
  | "mkdir" => some mkdir
  | "rmdir" => some rmdir
  | "mv" => some mv
  | "cp" => some cp
  | "ls" => some ls
  | "basename" => some basename
  | "dirname" => some dirname
  | "seq" => some seq
  | "sleep" => some sleep
  | "yes" => some yes
  | "expr" => some expr
  | "printenv" => some printenv
  | "echo" => some echo
  | "uname" => some fun _ ↦ put (ofText "Linux\n") *> answer 0
  | "chmod" | "chown" | "sync" => some fun _ ↦ answer 0
  | "printf" | "test" | "[" | "true" | "false" | "pwd" | "kill" => Builtin.plain? name
  | _ => none

end CompileWorker.Shell.Utility
