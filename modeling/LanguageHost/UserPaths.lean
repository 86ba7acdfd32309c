import LanguageHost.Locate

/-!
# The user's folders

Preferences and logs of a program lie in folders of its user. The configuration home and the state
home may be named by environment variables; a value that is no absolute path counts as none, and
then both lie below the user's home. Inside each the program has a folder of its own name. A name
that would lead out of it, by the rules of any kind of path, is refused.
-/

namespace LanguageHost

/-- Where a program keeps things for its user. -/
structure UserPaths where
  /-- The name of the program. -/
  app : String
  config : Path
  log : Path
  preferences : Path
  deriving DecidableEq, Repr

namespace UserPaths

/-- The name that the program goes by. -/
def usualApp : String := "yamlls-bridge"

/-- A text without the slashes at its end. -/
def dropSlashes (s : String) : String :=
  String.ofList (s.toList.reverse.dropWhile (· = '/')).reverse

/-- The folder that a variable names, or the one below the user's home. -/
def home (name fallback : String) (environment : List (String × String)) : Path :=
  let chosen := Path.ofString (trimBlank ((findMember? name environment).getD ""))
  if chosen.isAbsolute then chosen
  else Path.ofString (dropSlashes ((findMember? "HOME" environment).getD "") ++ "/" ++ fallback)

/-- The parts of a name between slashes of either kind. -/
def parts (app : String) : List (List Char) :=
  Path.splitSlashes [] (app.toList.map fun c => if c = '\\' then '/' else c)

/-- The name begins at a root or at a drive, as paths of some kind do. -/
def isAnchored (app : String) : Bool :=
  match app.toList with
  | '/' :: _ | '\\' :: _ => true
  | letter :: ':' :: _ => letter.isAlpha
  | _ => false

/-- The name leads nowhere but into the folder that it is put to. -/
def staysInside (app : String) : Bool :=
  !isAnchored app && !(parts app).contains ['.', '.']

/-- The folders of a program in an environment. -/
def folders (app : String) (environment : List (String × String)) : UserPaths :=
  let config := (home "XDG_CONFIG_HOME" ".config" environment).child app
  let log := ((home "XDG_STATE_HOME" ".local/state" environment).child app).child "log"
  ⟨app, config, log, config.child "preferences.json"⟩

/-- The folders of a program, unless its name would lead out of them. -/
def ofEnvironment (app : String) (environment : List (String × String)) :
    Except Fault UserPaths :=
  if staysInside app then .ok (folders app environment) else .error (.outsideBase app)

end UserPaths

end LanguageHost
