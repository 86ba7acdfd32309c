import LanguageHost.Locate
import LanguageHost.Server.Connection

/-!
# The YAML server's connection

The YAML server is a script that a runner executes. A connection to it is made even when the runner
or the script cannot be found: the problem is noted, and the connection stays without a command, so
that starting it reports a failure.
-/

namespace LanguageHost.YamlProvider

/-- The word in front of the description of a YAML server's connection. -/
def title : String := "YAML Language Server: "

/-- The connection before its command is known. -/
def idle : Connection :=
  { Connection.make [] none with title }

/-- Where the runner and the script are. -/
def locateBoth (node entry : Task Path) : Task (Path × Path) := do
  return (← node, ← entry)

/-- The connection to a server whose runner and script are found by the given searches. -/
def make (node entry : Task Path) : Task Connection :=
  tryCatch
    (do
      let (node, entry) ← locateBoth node entry
      let cwd := (← get).cwd
      return { idle with
        commands := [node.text, entry.text, "--stdio"], folder := some cwd.text })
    (fun fault => do
      match fault with
      | .problem p =>
        if p.kind.isA .launch then
          let tags ← Task.ofExcept p.members
          Task.log "yaml.server" .error p.message tags
          return idle
        else throw fault
      | other => throw other)

/-- The connection to the server that is found on this machine. -/
def located : Task Connection :=
  make Locate.node Locate.entry

end LanguageHost.YamlProvider
