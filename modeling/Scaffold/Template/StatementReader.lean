import Scaffold.Template.ExpressionReader

/-!
# Reading statements

The tags of a template.

* `StatementGrammar` holds the readers for what stands inside a statement; `statements` ties the knot
  and takes from a budget, so that nesting is bounded.
* `Source.read` reads a whole template.
-/

namespace Scaffold.Template.Reader

/-- The readers for what stands inside a statement. -/
structure StatementGrammar where
  expression : Reader Expr
  /-- An expression without `if`. -/
  simple : Reader Expr
  /-- Statements up to a tag with one of these words, which is not read. -/
  body : List String → Reader (List Statement)

/-! ### Parts of statements -/

/-- Statements up to a tag with the word, which is read. -/
def closedBody (g : StatementGrammar) (word : String) : Reader (List Statement) := do
  let body ← g.body [word]
  let _ ← next
  return body

/-- The end of a tag and the statements up to a tag with the word. -/
def tagBody (g : StatementGrammar) (word : String) : Reader (List Statement) := do
  expectCloseTag
  closedBody g word

/-- Names behind dots lead from a name to an entry. -/
def entryTarget : Nat → Expr → Target → Reader Target
  | 0, _, target => return target
  | bound + 1, e, target => do
    if ← skipSymbol .dot then
      let name ← word
      entryTarget bound (.member e.line e name) (.entry e.line e name)
    else return target

/-- A name that is assigned to, with names behind dots if these are allowed. -/
def nameTarget (dotted : Bool) : Reader Target := do
  let name ← assignedName
  if dotted then
    entryTarget ((← get).tokens.length + 1) (.name (← lastLine) name) (.name name)
  else return .name name

/-- Whether a token ends a list of targets. -/
def endsTargets (t : Token) : Bool :=
  t.isSymbol .closeParen || t.isCloseValue || t.isCloseTag || t.isWord "in"

/-- One target, or none or several with commas between them. -/
def targetList (dotted : Bool) : Nat → Reader Target
  | 0 => tooDeep
  | bound + 1 => do
    let line ← nextLine
    let one : Reader Target := do
      if ← skipSymbol .openParen then
        let target ← targetList dotted bound
        expectSymbol .closeParen "`)`"
        return target
      else nameTarget dotted
    if ← sees endsTargets then return .tuple line []
    let first ← one
    if ← sees (·.isSymbol .comma) then
      let rest ← many fun _ => do
        if ← skipSymbol .comma then
          -- A comma may stand behind the last target.
          if ← sees endsTargets then return none else return some (← one)
        else return none
      return .tuple line (first :: rest)
    else return first

/-- A target, or some between commas. -/
def targets (dotted : Bool) : Reader Target := do
  targetList dotted ((← get).tokens.length + 1)

/-- A filter without an operand. -/
def filterCall (g : StatementGrammar) : Reader FilterCall := do
  let name ← word
  let line ← lastLine
  let args ← optionalArguments g.expression g.simple
  return ⟨lastLineOf line args, name, args⟩

/-- Filters with bars between them, up to the end of the tag. -/
def filterCalls (g : StatementGrammar) : Reader (List FilterCall) := do
  let calls ← many fun done => do
    if ← sees Token.isCloseTag then return none
    if !done.isEmpty then expectSymbol .pipe "`|`"
    return some (← filterCall g)
  if calls.isEmpty then fail "expected a filter" else return calls

/-- Parameters behind their opening parenthesis. -/
def params (g : StatementGrammar) : Reader (List Param) := do
  let ps ← commaSeparated (·.isSymbol .closeParen) do
    let name ← assignedName
    if ← skipSymbol .assign then return ⟨name, some (← g.expression)⟩
    else return (⟨name, none⟩ : Param)
  if defaultsLast ps then return ps else fail "unexpected token, expected `=`"
where
  /-- Whether all parameters behind one with a default have one too. -/
  defaultsLast : List Param → Bool
    | [] => true
    | ⟨_, some _⟩ :: ps => ps.all (·.default?.isSome)
    | ⟨_, none⟩ :: ps => defaultsLast ps

/-- Runs `x` with the surroundings changed for as long as it runs. -/
def surrounded {α : Type} (inLoop inDefinition : Option Bool) (x : Reader α) : Reader α := do
  let old ← get
  modify fun s => { s with
    inLoop := inLoop.getD s.inLoop
    inDefinition := inDefinition.getD s.inDefinition }
  let a ← x
  modify fun s => { s with inLoop := old.inLoop, inDefinition := old.inDefinition }
  return a

/-- The body of a definition. -/
def definitionBody (g : StatementGrammar) (word : String) : Reader (List Statement) :=
  surrounded (some false) (some true) (tagBody g word)

/-! ### Statements -/

/-- A loop, with what it goes through, its condition, its body, and what runs if there is no item. -/
def loopStatement (g : StatementGrammar) : Reader Statement :=
  surrounded (some true) none do
    let target ← targets false
    expectWord "in"
    let source ← g.simple
    let condition? ← if ← skipWord "if" then pure (some (← g.expression)) else pure none
    let recursive ← skipWord "recursive"
    expectCloseTag
    let body ← g.body ["endfor", "else"]
    -- The branch for an empty list has a body of its own.
    let otherwise ←
      if ← skipWord "else" then do
        expectCloseTag
        g.body ["endfor"]
      else pure []
    let _ ← next
    return .loop target source condition? recursive body otherwise

/-- The branches of a condition; the number bounds how many there are. -/
def branchStatement (g : StatementGrammar) : Nat → Reader Statement
  | 0 => tooDeep
  | bound + 1 => do
    let test ← g.simple
    expectCloseTag
    let yes ← g.body ["endif", "else", "elif"]
    match ← next with
    | some (.word "else") => return .branch test yes (← tagBody g "endif")
    | some (.word "elif") => return .branch test yes [← branchStatement g bound]
    | _ => return .branch test yes []

/-- Names that hold inside of a body only. -/
def bindingsStatement (g : StatementGrammar) : Reader Statement := do
  let line ← lastLine
  let entries ← many fun done => do
    if ← sees Token.isCloseTag then return none
    if !done.isEmpty then expectSymbol .comma "comma"
    -- Brackets put several targets into one entry.
    let target ←
      if ← skipSymbol .openParen then do
        let target ← targets false
        expectSymbol .closeParen "`)`"
        pure target
      else nameTarget false
    expectSymbol .assign "assignment operator"
    return some (target, ← g.expression)
  return .bindings line entries (← tagBody g "endwith")

/-- An assignment of a value, or of what a body writes. -/
def assignStatement (g : StatementGrammar) : Reader Statement := do
  let target ← targets true
  if ← sees fun t => t.isCloseTag || t.isSymbol .pipe then
    let filters ← if ← skipSymbol .pipe then filterCalls g else pure []
    return .capture target filters (← tagBody g "endset")
  else
    expectSymbol .assign "assignment operator"
    return .assign target (← g.expression)

/-- Whether a statement writes nothing but blanks. -/
def isBlankText : Statement → Bool
  | .text s => Text.allBlank s
  | _ => false

/-- A block, which a template that extends this one may replace. -/
def blockStatement (g : StatementGrammar) : Reader Statement := do
  if (← get).inDefinition then fail "block tags in macros are not allowed"
  let name ← word
  let line ← lastLine
  -- A block may be defined once in a template.
  if (← get).blockNames.contains name then fail ("block '" ++ name ++ "' defined twice")
  modify fun s => { s with blockNames := name :: s.blockNames }
  let _ ← skipWord "scoped"
  let required ← skipWord "required"
  let body ← surrounded (some false) none (tagBody g "endblock")
  if required && !body.all isBlankText then
    fail "required blocks can only contain comments or whitespace"
  match ← peek with
  -- The name may stand again at the end, if it is the same.
  | some (.word trailing) =>
    if trailing = name then let _ ← next
    else fail ("mismatching name on block. Got " ++ trailing ++ ", expected " ++ name)
  | _ => pure ()
  let body := if required then [.required line name] else body
  modify fun s => { s with blocks := (name, body) :: s.blocks }
  return .block line name

/-- `with context` and `without context`, which have no meaning. -/
def contextMark : Reader Unit := do
  if ← skip (·.isOneOf ["with", "without"]) then expectWord "context"

/-- A template that is inserted here. -/
def insertionStatement (g : StatementGrammar) : Reader Statement := do
  let template ← g.expression
  contextMark
  if ← skipWord "ignore" then
    expectWord "missing"
    contextMark
    return .insertion template true
  else return .insertion template false

/-- What another template defines, under one name. -/
def importStatement (g : StatementGrammar) : Reader Statement := do
  let template ← g.expression
  expectWord "as"
  let name ← assignedName
  contextMark
  return .importAll template name

/-- Some of the names that another template defines. -/
def importNamesStatement (g : StatementGrammar) : Reader Statement := do
  let template ← g.expression
  expectWord "import"
  let ends (t : Token) : Bool := t.isCloseTag || t.isOneOf ["with", "without"]
  let names ← many fun done => do
    if ← sees ends then return none
    if !done.isEmpty then expectSymbol .comma "`,`"
    -- A comma may stand behind the last name.
    if ← sees ends then return none
    let name ← assignedName
    if ← skipWord "as" then return some (name, ← assignedName) else return some (name, name)
  contextMark
  return .importNames template names

/-- A macro. -/
def defineStatement (g : StatementGrammar) : Reader Statement := do
  let name ← word
  expectSymbol .openParen "`(`"
  let ps ← params g
  return .define name ps (← definitionBody g "endmacro")

/-- An expression that is a call. -/
def callExpression (g : StatementGrammar) (tag : String) : Reader (Nat × Call) := do
  match ← g.expression with
  | .call line c => return (line, c)
  | _ => fail ("expected call expression in " ++ tag ++ " block")

/-- A call with a body. -/
def callStatement (g : StatementGrammar) : Reader Statement := do
  let ps ← if ← skipSymbol .openParen then params g else pure []
  let (line, c) ← callExpression g "call"
  return .callWith line c ps (← definitionBody g "endcall")

/-- The statement that starts with a word. -/
def statement (g : StatementGrammar) : Reader Statement := do
  match ← next with
  | some (.word w) =>
    match w with
    | "for" => loopStatement g
    | "if" => branchStatement g ((← get).tokens.length + 1)
    | "with" => bindingsStatement g
    | "set" => assignStatement g
    | "autoescape" => do
      let mode ← g.expression
      return .escaping mode (← tagBody g "endautoescape")
    | "filter" => do
      let filters ← filterCalls g
      return .filtered filters (← tagBody g "endfilter")
    | "block" => blockStatement g
    | "extends" => return .parent (← g.expression)
    | "include" => insertionStatement g
    | "import" => importStatement g
    | "from" => importNamesStatement g
    | "macro" => defineStatement g
    | "call" => callStatement g
    | "do" => do
      let (line, c) ← callExpression g "do"
      return .perform line c
    | "break" =>
      if (← get).inLoop then return .leave else fail "'break' must be placed inside a loop"
    | "continue" =>
      if (← get).inLoop then return .next else fail "'continue' must be placed inside a loop"
    | w => fail ("unknown statement " ++ w)
  | some _ => fail "unexpected token, expected statement"
  | none => fail "unexpected end of input, expected statement"

/-! ### The knot -/

/-- One piece of a template, or nothing at its end. -/
def piece (value : Reader Expr) (tag : Reader Statement) (ends : List String) :
    Reader (Option Statement) := do
  match ← next with
  | none => return none
  | some (.text s) => return some (.text s)
  | some .openValue =>
    let e ← value
    expect Token.isCloseValue "end of variable block"
    return some (.emit e)
  | some _ =>
    if (← peek).isNone then fail "unexpected end of input, expected keyword"
    -- The tag that ends the body is left for the one who reads the body.
    if ← sees (·.isOneOf ends) then return none
    let s ← tag
    expectCloseTag
    return some s

/-- Statements that are not nested more deeply than the budget allows. -/
def statements : Nat → List String → Reader (List Statement)
  | 0, ends, s => many (fun _ => piece tooDeep tooDeep ends) s
  | n + 1, ends, s =>
    many (fun _ => piece (expression (n + 1))
      (statement ⟨expression n, simpleExpression (n + 1), statements n⟩) ends) s

/-- The deepest nesting of statements and expressions. -/
def maxNesting : Nat := 150

end Scaffold.Template.Reader

namespace Scaffold.Template

/-- Reads the source of a template. -/
def Source.read (name text : String) : Except Fault Source := do
  let (body, blocks) ←
    (Reader.statements Reader.maxNesting []).run name (TokenList.ofSource name text)
  return ⟨name, body, blocks⟩

end Scaffold.Template
