import Scaffold.Template.Expression
import Scaffold.Template.Reader

/-!
# Reading expressions

The grammar of expressions, from the operators that bind least to the operands.

* Each level is a reader that is given the reader of the next one, and `expression` ties the knot.
* `expression` takes from a budget, so that nesting is bounded. An expression inside an operand costs
  two, one inside brackets behind an operand costs one.
-/

namespace Scaffold.Template.Reader

/-- Nesting that is too deep. -/
def tooDeep {α : Type} : Reader α := fail "template exceeds maximum recursion limits"

/-! ### Binary operators -/

/-- Operands joined by operators of one level, which group to the left. -/
def chain (operator? : Token → Option (Expr → Expr → Expr)) (operand : Reader Expr) :
    Reader Expr := do
  let first ← operand
  let rest ← many fun _ => do
    match (← peek).bind operator? with
    | none => return none
    | some f =>
      let _ ← next
      return some (f, ← operand)
  -- The operators associate to the left.
  return rest.foldl (fun e (f, right) => f e right) first

/-- The operator that a symbol of a table stands for. -/
def symbolOperator? (table : List (Symbol × BinaryOp)) : Token → Option (Expr → Expr → Expr)
  | .symbol x => (table.lookup x).map Expr.ofBinary
  | _ => none

/-- Operands with powers between them. -/
def powers (operand : Reader Expr) : Reader Expr :=
  chain (symbolOperator? [(.power, .power)]) operand

/-- Powers with products between them. -/
def products (operand : Reader Expr) : Reader Expr :=
  chain (symbolOperator? [(.times, .multiply), (.divide, .divide), (.wholeDivide, .wholeDivide),
    (.percent, .remainder)]) (powers operand)

/-- Products that are put together as texts. -/
def concatenations (operand : Reader Expr) : Reader Expr :=
  chain (symbolOperator? [(.tilde, .concat)]) (products operand)

/-- Texts put together, with sums between them. -/
def sums (operand : Reader Expr) : Reader Expr :=
  chain (symbolOperator? [(.plus, .add), (.minus, .subtract)]) (concatenations operand)

/-- The comparison that a token stands for; `not in` is left to its caller. -/
def comparison? : Token → Option BinaryOp
  | .word "in" => some .member
  | .symbol x =>
    [(Symbol.equal, BinaryOp.equal), (.unequal, .unequal), (.less, .less), (.lessEqual, .lessEqual),
      (.greater, .greater), (.greaterEqual, .greaterEqual)].lookup x
  | _ => none

/-- Sums with comparisons between them. -/
def comparisons (operand : Reader Expr) : Reader Expr := do
  let first ← sums operand
  let rest ← many fun _ => do
    -- The two words `not in` are one operator.
    if ← skipWord "not" then
      expectWord "in"
      return some (BinaryOp.notMember, ← sums operand)
    match (← peek).bind comparison? with
    | none => return none
    | some op =>
      let _ ← next
      return some (op, ← sums operand)
  return .ofComparisons first rest

/-- `f` applied to `x` as often as given. -/
def iterate {α : Type} (f : α → α) : Nat → α → α
  | 0, x => x
  | n + 1, x => f (iterate f n x)

/-- Counts the tokens in front that satisfy `p`, and reads them. -/
def countOf (p : Token → Bool) : Reader Nat := do
  return (← many fun _ => do if ← skip p then return some () else return none).length

/-- Comparisons, perhaps negated. -/
def negations (operand : Reader Expr) : Reader Expr := do
  let n ← countOf (·.isWord "not")
  return iterate Expr.ofNot n (← comparisons operand)

/-- Negations with `and` between them. -/
def conjunctions (operand : Reader Expr) : Reader Expr :=
  chain (fun t => if t.isWord "and" then some Expr.ofBoth else none) (negations operand)

/-- An expression without `if`. -/
def disjunctions (operand : Reader Expr) : Reader Expr :=
  chain (fun t => if t.isWord "or" then some Expr.ofEither else none) (conjunctions operand)

/-- What one `if` adds to the expression in front of it. -/
def conditionalsFrom (operand : Reader Expr) : Nat → Expr → Reader Expr
  | 0, e => return e
  | bound + 1, e => do
    if ← skipWord "if" then
      let test ← disjunctions operand
      -- Further conditionals belong to the other value; without an `else` they take this one for theirs.
      if ← skipWord "else" then
        let no ← conditionalsFrom operand bound (← disjunctions operand)
        return .conditional test.line test e no
      else conditionalsFrom operand bound (.conditional test.line test e (.literal test.line .undefined))
    else return e

/-- An expression: alternatives with `if` and `else` of expressions without them. -/
def conditionals (operand : Reader Expr) : Reader Expr := do
  let e ← disjunctions operand
  conditionalsFrom operand ((← get).tokens.length + 1) e

/-! ### Operands -/

/-- Arguments behind their opening parenthesis. -/
def arguments (nested withoutIf : Reader Expr) : Reader (List Argument) := do
  commaSeparated (·.isSymbol .closeParen) do
    if ← skipSymbol .power then return .spreadNamed (← nested)
    if ← skipSymbol .times then return .spread (← nested)
    match ← nested with
    | .name line id =>
      if ← skipSymbol .assign then return .named id (← withoutIf) else return .positional (.name line id)
    | e => return .positional e

/-- Whether an argument has no name. -/
def isPositional : Argument → Bool
  | .positional _ => true
  | _ => false

/-- Whether an argument has a name. -/
def isNamed : Argument → Bool
  | .named _ _ | .spreadNamed _ => true
  | _ => false

/-- Whether no positional argument follows a named one. -/
def ordered : List Argument → Bool
  | [] => true
  | a :: rest => (!isNamed a || !rest.any isPositional) && ordered rest

/-- Arguments in parentheses. -/
def argumentList (nested withoutIf : Reader Expr) : Reader (List Argument) := do
  expectSymbol .openParen "`(`"
  let args ← arguments nested withoutIf
  if ordered args then return args else fail "non-keyword arg after keyword arg"

/-- Arguments if there is an opening parenthesis. -/
def optionalArguments (nested withoutIf : Reader Expr) : Reader (List Argument) := do
  if ← sees (·.isSymbol .openParen) then argumentList nested withoutIf else return []

/-- The line where a call ends up: that of its last part. -/
def lastLineOf (line : Nat) (args : List Argument) : Nat :=
  match args.getLast? with
  | some (.positional e) | some (.named _ e) | some (.spread e) | some (.spreadNamed e) => e.line
  | none => line

/-- A call of an expression. -/
def callOf (e : Expr) (args : List Argument) : Expr :=
  let line := lastLineOf e.line args
  match e with
  | .name _ f => .call line (.function f args)
  | .member _ (.name l "self") name =>
    if args.isEmpty then .call line (.block name) else .call line (.method (.name l "self") name args)
  | .member _ object name => .call line (.method object name args)
  | e => .call line (.value e args)

/-- An expression in brackets unless the brackets end or a colon follows. -/
def slicePart (nested : Reader Expr) (line : Nat) : Reader Expr := do
  if ← sees fun t => t.isSymbol .closeBracket || t.isSymbol .colon then return .literal line .none
  else nested

/-- An index or a slice behind its opening bracket. -/
def subscript (nested : Reader Expr) (e : Expr) : Reader Expr := do
  let line := e.line
  -- `[:stop]` has no start.
  let bare ← sees (·.isSymbol .colon)
  let start ← if bare then pure (.literal line .none) else nested
  if ← skipSymbol .colon then
    let stop ← slicePart nested line
    let step ← if ← skipSymbol .colon then slicePart nested line else pure (.literal line .none)
    expectSymbol .closeBracket "`]`"
    return .slice step.line e start stop step
  else
    expectSymbol .closeBracket "`]`"
    return .item start.line e start

/-- What follows an operand: names behind dots, brackets and calls. -/
def postfixes (nested withoutIf : Reader Expr) : Nat → Expr → Reader Expr
  | 0, e => return e
  | bound + 1, e => do
    if ← skipSymbol .dot then
      postfixes nested withoutIf bound (.member e.line e (← word))
    else if ← skipSymbol .openBracket then
      postfixes nested withoutIf bound (← subscript nested e)
    else if ← sees (·.isSymbol .openParen) then
      postfixes nested withoutIf bound (callOf e (← argumentList nested withoutIf))
    else return e

/-- Signs in front of an operand. They bind more tightly than what follows the operand. -/
def signed (primary : Reader Expr) : Reader Expr := do
  let n ← countOf (·.isSymbol .minus)
  return iterate Expr.ofNegative n (← primary)

/-- An operand without filters and tests. -/
def bareOperand (primary nested withoutIf : Reader Expr) : Reader Expr := do
  let e ← signed primary
  postfixes nested withoutIf ((← get).tokens.length + 1) e

/-- Whether a token can start the argument of a test that has no parentheses. -/
def startsTestArgument : Token → Bool
  | .word w => !(["and", "or", "else", "is"].contains w)
  | .string _ | .int _ | .float _ => true
  | .symbol x => [.plus, .minus, .openBracket, .openBrace].contains x
  | _ => false

/-- A test behind `is`. -/
def testOf (primary nested withoutIf : Reader Expr) (e : Expr) : Reader Expr := do
  let negated ← skipWord "not"
  let name ← word
  let args ←
    if ← sees (·.isSymbol .openParen) then argumentList nested withoutIf
    else if ← sees startsTestArgument then
      pure [.positional (← bareOperand primary nested withoutIf)]
    else pure []
  let test : Expr := .test (lastLineOf e.line args) e name args
  return if negated then .ofNot test else test

/-- Filters and tests behind an operand. -/
def filters (primary nested withoutIf : Reader Expr) : Nat → Expr → Reader Expr
  | 0, e => return e
  | bound + 1, e => do
    if ← skipSymbol .pipe then
      let name ← word
      let args ← optionalArguments nested withoutIf
      filters primary nested withoutIf bound (.filter (lastLineOf e.line args) e name args)
    else if ← skipWord "is" then
      filters primary nested withoutIf bound (← testOf primary nested withoutIf e)
    else return e

/-- An operand of the operators. -/
def operand (primary nested withoutIf : Reader Expr) : Reader Expr := do
  let e ← bareOperand primary nested withoutIf
  filters primary nested withoutIf ((← get).tokens.length + 1) e

/-- What stands in parentheses: an expression, or a list if there is a comma or nothing. -/
def parenthesized (nested : Reader Expr) (line : Nat) : Reader Expr := do
  if ← skipSymbol .closeParen then return .ofItems line []
  let e ← nested
  if ← skipSymbol .comma then
    return .ofItems line (e :: (← commaSeparated (·.isSymbol .closeParen) nested))
  else
    expectSymbol .closeParen "`)`"
    return e

/-- An entry of a map. -/
def entry (nested : Reader Expr) : Reader (Expr × Expr) := do
  let key ← nested
  expectSymbol .colon "`:`"
  return (key, ← nested)

/-- The texts that follow a text at once; together they are one text. -/
def moreTexts (s : String) : Reader String := do
  let more ← many fun _ => do
    match ← peek with
    | some (.string t) =>
      let _ ← next
      return some t
    | _ => return none
  return String.join (s :: more)

/-- A name, a literal, or an expression in brackets. -/
def primary (nested : Reader Expr) : Reader Expr := do
  let token? ← next
  let line ← lastLine
  match token? with
  | some (.word w) =>
    if w = "true" || w = "True" then return .literal line (.bool true)
    else if w = "false" || w = "False" then return .literal line (.bool false)
    else if w = "none" || w = "None" then return .literal line .none
    else return .name line w
  | some (.string s) => return .literal line (.text (← moreTexts s))
  | some (.int n) => return .literal line (.int n)
  | some (.float x) => return .literal line (.float x)
  | some (.symbol .openParen) => parenthesized nested line
  | some (.symbol .openBracket) =>
    return .ofItems line (← commaSeparated (·.isSymbol .closeBracket) nested)
  | some (.symbol .openBrace) =>
    return .ofEntries line (← commaSeparated (·.isSymbol .closeBrace) (entry nested))
  | some _ => fail "unexpected token, expected expression"
  | none => fail "unexpected end of input, expected expression"

/-! ### The knot -/

mutual

/-- An expression that is not nested more deeply than the budget allows. -/
def expression : Nat → Reader Expr
  | 0, s => tooDeep s
  | 1, s => conditionals (operand tooDeep tooDeep tooDeep) s
  | n + 2, s =>
    conditionals
      (operand (primary (expression n)) (expression (n + 1)) (simpleExpression (n + 1))) s

/-- An expression without `if`, within the budget. -/
def simpleExpression : Nat → Reader Expr
  | 0, s => tooDeep s
  | 1, s => disjunctions (operand tooDeep tooDeep tooDeep) s
  | n + 2, s =>
    disjunctions
      (operand (primary (expression n)) (expression (n + 1)) (simpleExpression (n + 1))) s

end

end Scaffold.Template.Reader
