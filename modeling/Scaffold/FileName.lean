import Scaffold.Text.Blank

/-!
# Names of files and folders

* `FileName.sanitize` makes any text a name: one path component that is neither empty nor a dot entry.
-/

namespace Scaffold.FileName

open Chars

/-- Characters that some file systems do not allow in names. -/
def invalidChars : List Char := ['<', '>', ':', '"', '/', '\\', '|', '?', '*']

def fallback : String := "Untitled"

/-- Invalid characters become underscores; blanks around the name and dots at its end go. -/
def clean (s : List Char) : List Char :=
  let replaced := s.map fun c => if invalidChars.contains c then '_' else c
  trimEnd (dropEndWhile (· == '.') (trim replaced))

def sanitize (name : String) : String :=
  let cleaned := clean name.toList
  if cleaned = [] || cleaned = ['.'] || cleaned = ['.', '.'] then fallback else .ofList cleaned

end Scaffold.FileName
