import LanguageHost.FileSystem.Basic

/-!
# Search paths

A search path is a text of directories between colons, in which programs are looked for in order.
An empty directory is the current one.
-/

namespace LanguageHost.SearchPath

/-- The parts of a text between colons. -/
def splitColons : List Char → List Char → List String
  | word, [] => [String.ofList word.reverse]
  | word, c :: rest =>
    if c = ':' then String.ofList word.reverse :: splitColons [] rest
    else splitColons (c :: word) rest

/-- The search path when there is none. -/
def usual : String := "/bin:/usr/bin"

/-- The directories of a search path, in order and each once; an empty search path has none. -/
def directories (path : Option String) : List String :=
  let text := path.getD usual
  if text.isEmpty then [] else (splitColons [] text.toList).eraseDups

/-- A name inside a directory. -/
def inDirectory (directory name : String) : String :=
  if directory.isEmpty || directory.toList.getLast? = some '/' then directory ++ name
  else directory ++ "/" ++ name

end LanguageHost.SearchPath
