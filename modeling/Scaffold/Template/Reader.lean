import Scaffold.Template.Expression
import Scaffold.Template.TokenList

/-!
# Reading tokens

Steps that read a template from its tokens. A failure without a place is attributed to the line of the
token read last.
-/

namespace Scaffold.Template

/-- What is left to read, and what surrounds it. -/
structure Reading where
  tokens : List Located
  fault? : Option Fault
  /-- The line of the token read last. -/
  line : Nat
  inLoop : Bool
  inDefinition : Bool
  /-- The names of the blocks that have begun. -/
  blockNames : List String
  /-- The blocks that have ended. -/
  blocks : List (String × List Statement)

/-- A reading step; what is left to read is known after a failure too. -/
abbrev Reader := ExceptT Fault (StateM Reading)

namespace Reader

variable {α : Type}

/-- Fails; the line is added where it is known. -/
def fail (detail : String) : Reader α := throw ⟨.unreadable, some detail, none⟩

/-- The next token, if there is one; it is not read. -/
def peek : Reader (Option Token) := do
  let s ← get
  match s.tokens, s.fault? with
  | t :: _, _ => return some t.token
  | [], some fault => throw fault
  | [], none => return none

/-- Reads a token, if there is one. -/
def next : Reader (Option Token) := do
  let token? ← peek
  match (← get).tokens with
  | t :: tokens => modify ({ · with tokens := tokens, line := t.line })
  | [] => pure ()
  return token?

/-- Whether the next token satisfies `p`. -/
def sees (p : Token → Bool) : Reader Bool := do
  return ((← peek).map p).getD false

/-- Reads the next token if it satisfies `p`. -/
def skip (p : Token → Bool) : Reader Bool := do
  if ← sees p then
    let _ ← next
    return true
  else return false

/-- Takes a word, if it comes next. -/
def skipWord (w : String) : Reader Bool := skip (·.isWord w)

/-- Takes a symbol, if it comes next. -/
def skipSymbol (x : Symbol) : Reader Bool := skip (·.isSymbol x)

/-- Reads a token that satisfies `p`. -/
def expect (p : Token → Bool) (what : String) : Reader Unit := do
  match ← next with
  | some t => if p t then return () else fail ("unexpected token, expected " ++ what)
  | none => fail ("unexpected end of input, expected " ++ what)

/-- Takes a symbol, which must come next. -/
def expectSymbol (x : Symbol) (what : String) : Reader Unit := expect (·.isSymbol x) what

/-- Takes a word, which must come next. -/
def expectWord (w : String) : Reader Unit := expect (·.isWord w) w

/-- Takes the end of a tag, which must come next. -/
def expectCloseTag : Reader Unit := expect Token.isCloseTag "end of block"

/-- Reads a name. -/
def word : Reader String := do
  match ← next with
  | some (.word w) => return w
  | some _ => fail "unexpected token, expected identifier"
  | none => fail "unexpected end of input, expected identifier"

/-- The line of the next token, or of the last one at the end. -/
def nextLine : Reader Nat := do
  let s ← get
  return (s.tokens.head?.map (·.line)).getD s.line

/-- The line of the last token that was taken. -/
def lastLine : Reader Nat := return (← get).line

/-- Names that cannot be assigned to. -/
def reserved : List String := ["true", "True", "false", "False", "none", "None", "loop", "self"]

/-- Reads a name that is assigned to. -/
def assignedName : Reader String := do
  let name ← word
  if reserved.contains name then fail ("cannot assign to reserved variable name " ++ name)
  else return name

/-- Steps that are repeated until one of them says that it was the last. -/
def repeatFor (bound : Nat) (step : List α → Reader (Option α)) (done : List α) :
    Reader (List α) :=
  match bound with
  | 0 => return done.reverse
  | bound + 1 => do
    match ← step done with
    | some x => repeatFor bound step (x :: done)
    | none => return done.reverse

/-- Repeats a step that reads at least one token whenever it is not the last one, so that the number
    of tokens bounds the repetition. The step gets what has been read, the last thing first. -/
def many (step : List α → Reader (Option α)) : Reader (List α) := do
  repeatFor ((← get).tokens.length + 1) step []

/-- Items up to a token that closes, with commas between them; a comma may follow the last one. -/
def commaSeparated (closes : Token → Bool) (item : Reader α) : Reader (List α) :=
  many fun done => do
    if ← skip closes then return none
    if !done.isEmpty then expectSymbol .comma "`,`"
    if !done.isEmpty && (← skip closes) then return none
    return some (← item)

/-- Runs a reader on a list of tokens; the blocks that it met come with its result. A failure without a
    place is placed at the last token that was read in the template. -/
def run (template : String) (tokens : TokenList) (x : Reader α) :
    Except Fault (α × List (String × List Statement)) :=
  let (result, left) := ExceptT.run x ⟨tokens.tokens, tokens.fault?, 1, false, false, [], []⟩
  match result with
  | .ok a => .ok (a, left.blocks)
  | .error fault => .error (fault.at_ ⟨template, left.line⟩)

end Reader

end Scaffold.Template
