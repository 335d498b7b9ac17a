import Scaffold.Files.Fault
import Scaffold.Text.Case
import Scaffold.Text.Lines

/-!
# Errors

What can go wrong between a structure document and the files on disk, the message for it, and the place
in a document that it is attributed to.

* `Error.message` is the only place where errors are worded.
* `Error.attributedTo` attributes an error to a document, once: the innermost document wins.
* `lineMentioning?` finds the line that mentions what an error is about.
-/

namespace Scaffold

/-- The kinds of templates. -/
inductive TemplateRole where
  | project | file
  deriving DecidableEq, Repr

/-- The kind as messages name it. -/
def TemplateRole.label : TemplateRole → String
  | .project => "Project"
  | .file => "File"

/-- What can go wrong when documents are read and built. -/
inductive Error where
  | io (fault : Files.Fault)
  /-- A document that is no YAML; the line counts from one. -/
  | parse (line? : Option Nat) (problem : String)
  /-- A placeholder that names no token. -/
  | unknownToken (name : String)
  /-- An entry that is the short form of a folder except that its value is no list. -/
  | malformedShorthand (key : String)
  | missingTemplate (kind : TemplateRole) (name : String)
  /-- A project template that includes itself; the chain ends with the repeated name. -/
  | cyclicInclude (chain : List String)
  /-- Embedded code that fails; `token?` is the token whose body it is. -/
  | codeExecution (origin reason : String) (token? : Option String)
  /-- Code or a document that gives no list of items. -/
  | invalidItems (origin reason : String)
  | config (problem : String)
  | prompt (problem : String)
  /-- Templates and code that open one another without end. The program runs out of its stack then; this stands for it
  where a result is to be given. -/
  | endlessExpansion
  /-- An error and the document it arose in. -/
  | located (document : String) (line? : Option Nat) (cause : Error)
  deriving DecidableEq, Repr, Inhabited

namespace Error

/-! ### Messages -/

/-- A text between quotes. -/
def quoted (s : String) : String := "\"" ++ s ++ "\""

/-- The message of an error. -/
def message : Error → String
  | .io fault => "IO error: " ++ fault.message ++ "."
  | .parse (some line) _ => "Invalid YAML on line " ++ toString line
  | .parse none problem => "Invalid YAML: " ++ problem
  | .unknownToken name => "Unknown token " ++ quoted name ++ "."
  | .malformedShorthand key => "Invalid shorthand folder for " ++ quoted key ++ "."
  | .missingTemplate kind name => kind.label ++ " template " ++ quoted name ++ " not found."
  | .cyclicInclude chain =>
    "Recursive project template include: " ++ Text.joinWith " -> " chain
  | .codeExecution origin reason _ => "Code error in " ++ origin ++ ": " ++ reason
  | .invalidItems origin reason => "Invalid items from " ++ origin ++ ": " ++ reason
  | .config problem => "Configuration error: " ++ problem ++ "."
  | .prompt problem => "Prompt error: " ++ problem ++ "."
  | .endlessExpansion => "Templates and code blocks are nested too deep."
  | .located document line? cause =>
    cause.message ++ " (in " ++ quoted document ++
      (line?.elim "" fun line => ", line " ++ toString line) ++ ")"

/-! ### Attribution -/

/-- What the line of a document mentions that an error comes from. -/
def clue? : Error → Option String
  | .unknownToken name => some ("mp:" ++ name)
  | .codeExecution _ _ (some token) => some ("mp:" ++ token)
  | .malformedShorthand key => some key
  | .missingTemplate _ name => some name
  | .cyclicInclude chain => chain.getLast?
  | _ => none

end Error

/-- Whether a line mentions the lowercase text `wanted`, blanks behind the marker of a placeholder
    aside. -/
def lineMentions (wanted line : List Char) : Bool :=
  let line := Text.lowerChars line
  Chars.contains wanted line
    || Chars.contains wanted (Chars.replace "mp: ".toList "mp:".toList line)

/-- The number, from one, of the first line of `text` that mentions `wanted`, ignoring case. -/
def lineMentioning? (text wanted : String) : Option Nat :=
  let wanted := Text.lowerChars (Chars.trim wanted.toList)
  if wanted.isEmpty then none
  else ((Chars.lines text.toList).findIdx? (lineMentions wanted)).map (· + 1)

namespace Error

/-- The line of `text` that the error comes from, if it can be told. -/
def lineIn? (e : Error) (text : String) : Option Nat :=
  match e with
  | .parse line? _ => line?
  | e => e.clue?.bind (lineMentioning? text)

/-- Attributes an error to `document` with the source `text`, unless it is attributed already. -/
def attributedTo (document text : String) : Error → Error
  | .located d line? cause => .located d line? cause
  | e => .located document (e.lineIn? text) e

/-- The line that an error was located on. -/
def line? : Error → Option Nat
  | .parse line? _ => line?
  | .located _ line? _ => line?
  | _ => none

/-- The document that an error was located in. -/
def document? : Error → Option String
  | .located document _ _ => some document
  | _ => none

/-- The error without the documents it is attributed to. -/
def innermost : Error → Error
  | .located _ _ cause => cause.innermost
  | e => e

end Error

end Scaffold
