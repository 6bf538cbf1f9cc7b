import PocketShell.Launch

/-!
# Search paths

The search path that the machine has, and the paths of names in its directories as the programs of
the machine form them.
-/

namespace PocketShell.Machine.SearchPath

/-- The search path that has the usual directories. -/
def usual : String := "/usr/local/sbin:/usr/local/bin:/usr/sbin:/usr/bin:/sbin:/bin"

/-- The path of a name in a directory, with a slash between them unless the directory is the
current one. -/
def below (directory name : String) : String :=
  if directory.isEmpty then name else directory ++ "/" ++ name

end PocketShell.Machine.SearchPath
