import Scaffold.Files.Path
import Scaffold.Table
import Scaffold.Text.Case

/-!
# Token contexts

The tokens that placeholders stand for: texts, and code that is run where it is named. Names are
compared without regard to case and to blanks around them.

* A name is a text or code, never both: each definition removes the other.
* `Context.overriding` and `Context.inFile` give narrower contexts and leave the given one alone.
-/

namespace Scaffold

/-- What a token stands for. -/
inductive TokenBody where
  | text (s : String)
  | code (s : String)
  deriving DecidableEq, Repr, Inhabited

structure Context where
  values : Table String
  codes : Table String
  deriving Inhabited, Repr

namespace Context

/-- The form of a name under which its token is kept. -/
def key (name : String) : String := Text.lower (Text.trim name)

/-- Lower case, with underscores for spaces and dashes. -/
def slug (title : String) : String :=
  .ofList ((Text.lowerChars title.toList).map fun c => if c = ' ' || c = '-' then '_' else c)

def empty : Context := ⟨.empty, .empty⟩

/-- Defines a token; an earlier definition of the other kind is forgotten. -/
def define (ctx : Context) (name : String) : TokenBody → Context
  | .text s => ⟨ctx.values.insert (key name) s, ctx.codes.erase (key name)⟩
  | .code s => ⟨ctx.values.erase (key name), ctx.codes.insert (key name) s⟩

/-- Defines tokens one after the other. -/
def defineAll (ctx : Context) (tokens : List (String × TokenBody)) : Context :=
  tokens.foldl (fun ctx (name, body) => ctx.define name body) ctx

/-- The context of the built-in tokens. -/
def ofTitle (title description : String) : Context :=
  empty.defineAll
    [("title", .text title), ("description", .text description),
      ("formatted_name", .text (slug title))]

def overriding (ctx : Context) (overrides : List (String × String)) : Context :=
  ctx.defineAll (overrides.map fun (name, value) => (name, .text value))

/-- The context for the content of the file called `name`. -/
def inFile (ctx : Context) (name : String) : Context :=
  let (stem, extension) :=
    ((Files.Path.ofText name).fileName?.map Files.stemAndExtension).getD ("", none)
  ctx.overriding
    [("filename", name), ("file_stem", stem), ("file_ext", extension.getD "")]

def value? (ctx : Context) (name : String) : Option String := ctx.values.get? (key name)

def code? (ctx : Context) (name : String) : Option String := ctx.codes.get? (key name)

/-- What the name stands for. -/
def body? (ctx : Context) (name : String) : Option TokenBody :=
  match ctx.code? name with
  | some s => some (.code s)
  | none => (ctx.value? name).map .text

def title (ctx : Context) : String := (ctx.value? "title").getD ""

end Context

end Scaffold
