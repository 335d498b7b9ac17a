import Scaffold.Document.Items
import Scaffold.Placeholder
import Scaffold.Engine

/-!
# Substitution

Putting in for each placeholder of a text what it stands for: first the blocks of code, then the
expressions, then the names of tokens. Each pass is over before the next one starts, and what a
pass puts in is not looked at again by the same pass.

* `Filler.fill` opens one session with the engine, when code is reached for the first time.
* `Filler.runCode` runs code in a session of its own.
* `dedentBlock` removes the indentation that all lines of a block have in common.
-/

namespace Scaffold

open Placeholder (Form Piece)

/-! ### Indentation -/

/-- The width in bytes of the blanks that a line starts with. -/
def indentWidth (line : List Char) : Nat := Chars.byteLength (line.takeWhile Chars.isBlank)

/-- Removes the indentation common to all lines that are not blank. -/
def dedentLines (lines : List (List Char)) : List (List Char) :=
  let indent := (((lines.filter fun l => !Chars.allBlank l).map indentWidth).min?).getD 0
  lines.map fun l => (Chars.dropBytes? indent l).getD (Chars.trimStart l)

def dedentChars (code : List Char) : List Char :=
  Chars.joinWith ['\n'] (dedentLines (Chars.lines code))

/-- A block of code without its common indentation and without line breaks at its ends. -/
def dedentBlock (code : List Char) : List Char := Chars.trimOf '\n' (dedentChars code)

/-! ### Texts of results -/

/-- The text of an expression: its value, or what it printed if there is no value. -/
def textOfExpression (x : CodeResult) : String :=
  match x.result? with
  | some v => if v.isNull then Text.trimEndBreaks x.output else Document.plainText v
  | none => Text.trimEndBreaks x.output

/-- The text of a block: the value it binds, or what it printed. -/
def textOfBlock (x : CodeResult) : String :=
  match x.result? with
  | some v => Document.plainText v
  | none => Text.trimEndBreaks x.output

/-! ### Filling -/

/-- An engine and the code that runs first in each of its sessions. -/
structure Filler (σ : Type) where
  engine : Engine σ
  preamble? : Option String

/-- Steps that may fail and that change the state of an engine. -/
abbrev Running (σ : Type) := ExceptT Error (StateM σ)

/-- The state of a substitution: that of the engine, and whether a session is open. -/
structure Filling (σ : Type) where
  engine : σ
  isOpen : Bool

namespace Filler

variable {σ : Type}

/-- Turns a failure of code into an error. -/
def failure (origin : String) (e : CodeFailure) : Error := .codeExecution origin e.message none

/-- One call to the engine. -/
def call {α : Type} (f : StateM σ (Except CodeFailure α)) :
    StateM (Filling σ) (Except CodeFailure α) :=
  fun p =>
    let (r, s) := f p.engine
    (r, { p with engine := s })

/-- Opens a session unless one is open. -/
def openSession (s : Filler σ) (ctx : Context) : Running (Filling σ) Unit := do
  if (← get).isOpen then return ()
  else match ← call (s.engine.openSession ctx s.preamble?) with
    | .error e => throw (failure "preamble" e)
    | .ok _ => modify ({ · with isOpen := true })

/-- Runs a block of code. -/
def execute (s : Filler σ) (ctx : Context) (origin : String) (code : List Char) :
    Running (Filling σ) CodeResult := do
  let code := dedentBlock code
  s.openSession ctx
  match ← call (s.engine.execute (.ofList code)) with
  | .error e => throw (failure origin e)
  | .ok x => return x

/-- The text of a block placeholder. -/
def block (s : Filler σ) (ctx : Context) (origin : String) (code : List Char) :
    Running (Filling σ) String := do
  return textOfBlock (← s.execute ctx origin code)

/-- The text of an expression placeholder. -/
def expression (s : Filler σ) (ctx : Context) (code : List Char) :
    Running (Filling σ) String := do
  s.openSession ctx
  match ← call (s.engine.evaluate (.ofList (Chars.trim code))) with
  | .error e => throw (failure "\x7bmp.py:...\x7d expression" e)
  | .ok x => return textOfExpression x

/-- The text of a token that is code: a block if it has more lines than one, else an expression or,
    if it is none, a block. -/
def runToken (s : Filler σ) (ctx : Context) (name code : String) :
    Running (Filling σ) String := do
  let origin := "token \"" ++ name ++ "\""
  let code := code.toList
  if code.contains '\n' then s.block ctx origin code
  else
    let stripped := Chars.trim code
    if stripped.isEmpty then return ""
    else
      s.openSession ctx
      match ← call (s.engine.evaluate (.ofList stripped)) with
      | .ok x => return textOfExpression x
      | .error (.unreadable _) => s.block ctx origin code
      | .error e => throw (failure origin e)

/-- Says of failed code whose token it is. -/
def ofToken (name : String) : Error → Error
  | .codeExecution origin reason none => .codeExecution origin reason (some name)
  | e => e

/-- The text that a name stands for. -/
def token (s : Filler σ) (ctx : Context) (name : String) : Running (Filling σ) String :=
  match ctx.code? name with
  | some code => tryCatch (s.runToken ctx name code) fun e => throw (ofToken name e)
  | none =>
    match ctx.value? name with
    | some value => return value
    | none => throw (.unknownToken name)

/-- The text of a hole. -/
def hole (s : Filler σ) (ctx : Context) : Form → List Char → Running (Filling σ) String
  | .block, code => s.block ctx "\x7bmp.py|...\x7d block" code
  | .expression, code => s.expression ctx code
  | .name, name => s.token ctx (.ofList (Chars.trim name))

/-- Fills the holes, from the left. -/
def fillHoles (f : List Char → Running (Filling σ) String) :
    List Piece → Running (Filling σ) (List Char)
  | [] => return []
  | .plain text :: pieces => return text ++ (← fillHoles f pieces)
  | .hole code :: pieces => do
    let text ← f code
    return text.toList ++ (← fillHoles f pieces)

/-- Puts in for all placeholders of one form. -/
def pass (s : Filler σ) (ctx : Context) (form : Form) (text : List Char) :
    Running (Filling σ) (List Char) :=
  fillHoles (s.hole ctx form) (form.pieces text)

/-- The forms of placeholders, in the order of their passes. -/
def passes : List Form := [.block, .expression, .name]

/-- Runs steps of a substitution with no session open. -/
def inOneSession {α : Type} (x : Running (Filling σ) α) : Running σ α := fun s =>
  let (r, p) := x.run ⟨s, false⟩
  (r, p.engine)

/-- Puts in for all placeholders of a text. -/
def fill (s : Filler σ) (ctx : Context) (text : String) : Running σ String :=
  if text.toList.contains '\x7b' then
    inOneSession do return .ofList (← passes.foldlM (fun text form => s.pass ctx form text) text.toList)
  else return text

/-- Runs a block of code in a session of its own. -/
def runCode (s : Filler σ) (ctx : Context) (origin code : String) : Running σ CodeResult :=
  inOneSession (s.execute ctx origin code.toList)

end Filler

end Scaffold
