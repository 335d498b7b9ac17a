import Scaffold.Table

/-!
# Template libraries

Where project templates and file templates are looked up by name.

* `Library.ofTables` is a library held in memory.
-/

namespace Scaffold

structure Library where
  /-- The text of the project template with a name. -/
  project? : String → Option String
  /-- The text of the file template with a name. -/
  file? : String → Option String
  /-- How many project templates may be open inside one another. -/
  nesting : Nat

/-- The library of the templates in two tables. No template is opened inside itself, so the number
    of project templates bounds how many can be open. -/
def Library.ofTables (projects files : Table String) : Library where
  project? := projects.get?
  file? := files.get?
  nesting := projects.size

end Scaffold
