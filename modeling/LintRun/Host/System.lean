import LintRun.Host.FileTree
import LintRun.Shell.Tool

/-!
# The files of the system

Every host has the directories of the system, the programs that scripts are made of, and the
two special files that scripts use.
-/

set_option autoImplicit false

namespace LintRun.FileTree

/-- The programs of the system: tools and shells. -/
def systemPrograms : List String :=
  Shell.Tool.names ++ ["sh", "dash", "bash", "setsid", "nohup"]

/-- The files of the system. -/
def system : FileTree where
  nodes :=
    [(["usr"], .directory), (["usr", "bin"], .directory), (["bin"], .link "usr/bin"),
      (["dev"], .directory), (["dev", "null"], .sink), (["dev", "zero"], .zeros),
      (["etc"], .directory), (["root"], .directory), (["tmp"], .directory)] ++
    systemPrograms.map fun name => (["usr", "bin", name], .program name)

end LintRun.FileTree
