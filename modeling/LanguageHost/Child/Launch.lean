import LanguageHost.Child.Program
import LanguageHost.FileSystem.Change
import LanguageHost.Journal.Basic

/-!
# Launching a child process

A command is an executable and its arguments. The working directory comes first: when it cannot be
entered the error is about it and not about the command.
-/

namespace LanguageHost.Launch

/-- The working directory of a child without links, if it can be entered. -/
def enter (p : Platform) : Option String → Except OsFault Path
  | none => .ok p.cwd
  | some text =>
    match p.files.lookUp true text with
    | .ok (.node names (.folder _ _)) => .ok ⟨.root, names⟩
    | .ok (.node _ _) => .error ⟨.notFolder, text⟩
    | .ok (.missing _) => .error ⟨.noEntry, text⟩
    | .error errno => .error ⟨errno, text⟩

/-- The scope that a child begins with. -/
def scope (p : Platform) (directory : Path) : Scope where
  called := ""
  arguments := []
  bindings := p.environment
  exported := p.environment.map Prod.fst
  functions := []
  directory := directory.text
  traps := []
  stopsOnFailure := false
  input := .inward
  output := .outward
  errors := .nowhere

/-- A child that has nothing to do yet. -/
def idle (p : Platform) (command : List String) (directory : Path) : Child where
  command
  program := []
  scope := scope p directory
  status := 0
  files := p.files
  conversation := p.conversation
  input := []
  inputEnded := false
  given := []
  unsent := false
  output := []
  kept := []
  code := none
  received := []

/-- A child running a command. -/
def start (p : Platform) (command : List String) (folder : Option String) : Except Fault Child :=
  let texts := command ++ folder.toList
  if texts.any fun t => t.toList.contains '\x00' then .error .nulByte
  else
    match enter p folder with
    | .error fault => .error (.os fault)
    | .ok directory =>
      let program := command.headD ""
      let child := idle p command directory
      match child.findExecutable program (command.drop 1) with
      | .error errno => .error (.os ⟨errno, program⟩)
      | .ok executable => .ok (Child.beginExecutable Child.maxPrograms executable child).advance

/-! ## The machine's programs -/

/-- Puts programs of these names into a folder. -/
def installPrograms (folder : Path) (names : List String) (fs : FileSystem) : FileSystem :=
  match fs.ensureFolders folder with
  | .error _ => fs
  | .ok fs =>
    names.foldl
      (fun fs name =>
        let file := folder.child name
        match fs.writeFile file Executable.programMark with
        | .ok fs => fs.setMode file 0o755
        | .error _ => fs)
      fs

end LanguageHost.Launch
