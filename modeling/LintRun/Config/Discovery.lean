import LintRun.Config.Document
import LintRun.Path

/-!
# Finding the configuration

A directory is configured by the first file in it that has one of two names.  Looking at the
files is left to the caller.
-/

set_option autoImplicit false

namespace LintRun.Config

/-- The names of configuration files; the first one found is used. -/
def fileNames : List String := [".lintmux.jsonc", ".lintmux.json"]

/-- The path of the configuration file in a directory, if there is one. -/
def find? (isFile : String → Bool) (directory : String) : Option String :=
  (fileNames.map (Path.join directory)).find? isFile

/-- Reads the configuration file at a path. -/
def load (readText : String → Except FileFault String) (path : String) :
    Except ConfigError Config :=
  match readText path with
  | .ok document => parse document path
  | .error fault => .error (.file path fault)

/-- The configuration file in a directory and what it says, if there is one. -/
def discover (isFile : String → Bool) (readText : String → Except FileFault String)
    (directory : String) : Except ConfigError (Option (String × Config)) :=
  match find? isFile directory with
  | none => .ok none
  | some path => do return some (path, ← load readText path)

end LintRun.Config
