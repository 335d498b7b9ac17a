import Scaffold.Conflict

/-!
# Command line arguments

The arguments of a call: switches, options with a value, and up to two words in order, the structure
document and the folder for the output.

* `Arguments.parse` reads them from the left; the first fault counts.
* A switch or an option may be given once. A value stands behind its option, or is attached to it with
  an equals sign or, behind a single letter, with nothing.
* Behind `--` everything is a word.
-/

namespace Scaffold.CommandLine

structure Arguments where
  structure? : Option String := none
  outputFolder : String := "."
  /-- The structure is the name of a project template. -/
  named : Bool := false
  title : String := ""
  description : String := ""
  config? : Option String := none
  projectTemplates? : Option String := none
  fileTemplates? : Option String := none
  preamble? : Option String := none
  /-- Show the tree and write nothing. -/
  preview : Bool := false
  policy : Conflict.Policy := .ask
  verbose : Bool := false
  /-- Show the example document and stop. -/
  printDefault : Bool := false
  deriving DecidableEq, Repr

/-- Why arguments are not taken; asking for help or the version ends reading, too. -/
inductive UsageFault where
  | missingRequired | unknownArgument | invalidValue | repeated | tooManyValues | help | version
  deriving DecidableEq, Repr

inductive Switch where
  | named | preview | verbose | printDefault
  deriving DecidableEq, Repr

/-- What takes a value: an option, or the place of a word. -/
inductive Slot where
  | structure_ | outputFolder
  | title | description | config | projectTemplates | fileTemplates | preamble | policy
  deriving DecidableEq, Repr

/-- What a flag stands for. -/
inductive Flag where
  | switch (s : Switch)
  | option (s : Slot)
  | help
  | version
  deriving DecidableEq, Repr

def longFlags : List (String × Flag) :=
  [("named", .switch .named), ("title", .option .title), ("description", .option .description),
    ("config", .option .config), ("project-templates", .option .projectTemplates),
    ("file-templates", .option .fileTemplates), ("preamble", .option .preamble),
    ("preview", .switch .preview), ("on-conflict", .option .policy),
    ("verbose", .switch .verbose), ("print-default", .switch .printDefault), ("help", .help),
    ("version", .version)]

def shortFlags : List (Char × Flag) :=
  [('n', .switch .named), ('t', .option .title), ('d', .option .description), ('c', .option .config),
    ('p', .switch .preview), ('v', .switch .verbose), ('h', .help), ('V', .version)]

/-! ### Values -/

def Arguments.setSwitch (a : Arguments) : Switch → Arguments
  | .named => { a with named := true }
  | .preview => { a with preview := true }
  | .verbose => { a with verbose := true }
  | .printDefault => { a with printDefault := true }

/-- Puts a value into its slot. Paths are not empty, and a policy has one of the known names. -/
def Arguments.setSlot (a : Arguments) (slot : Slot) (value : String) :
    Except UsageFault Arguments :=
  let path (f : String → Arguments) : Except UsageFault Arguments :=
    if value.isEmpty then .error .invalidValue else .ok (f value)
  match slot with
  | .structure_ => .ok { a with structure? := some value }
  | .title => .ok { a with title := value }
  | .description => .ok { a with description := value }
  | .outputFolder => path ({ a with outputFolder := · })
  | .config => path ({ a with config? := some · })
  | .projectTemplates => path ({ a with projectTemplates? := some · })
  | .fileTemplates => path ({ a with fileTemplates? := some · })
  | .preamble => path ({ a with preamble? := some · })
  | .policy =>
    match Conflict.Policy.ofName? value with
    | some p => .ok { a with policy := p }
    | none => .error .invalidValue

/-! ### Reading -/

/-- What has been read. A slot is filled only when the next argument is looked at. -/
structure Reading where
  arguments : Arguments := {}
  switches : List Switch := []
  slots : List Slot := []
  /-- The slot whose value is to come, or has come. -/
  pending? : Option (Slot × Option String) := none
  words : Nat := 0

namespace Reading

/-- Fills a slot, which must be empty. -/
def fill (r : Reading) (slot : Slot) (value : String) : Except UsageFault Reading := do
  if r.slots.contains slot then .error .repeated
  else
    let a ← r.arguments.setSlot slot value
    return { r with arguments := a, slots := slot :: r.slots }

/-- Fills the slot that is pending. -/
def settle (r : Reading) : Except UsageFault Reading :=
  match r.pending? with
  | none => .ok r
  | some (_, none) => .error .invalidValue
  | some (slot, some value) => { r with pending? := none }.fill slot value

/-- Reads a flag without a value. -/
def flag (r : Reading) : Flag → Except UsageFault Reading
  | .switch s => do
    let r ← r.settle
    if r.switches.contains s then .error .repeated
    else return { r with arguments := r.arguments.setSwitch s, switches := s :: r.switches }
  | .option slot => do
    let r ← r.settle
    return { r with pending? := some (slot, none) }
  | .help => do
    let _ ← r.settle
    .error .help
  | .version => do
    let _ ← r.settle
    .error .version

/-- Reads an option with its value. -/
def attached (r : Reading) (slot : Slot) (value : String) : Except UsageFault Reading := do
  (← r.settle).fill slot value

/-- Reads a word. -/
def word (r : Reading) (value : String) : Except UsageFault Reading :=
  match r.words with
  | 0 => do return { ← r.settle with pending? := some (.structure_, some value), words := 1 }
  | 1 => do return { ← r.settle with pending? := some (.outputFolder, some value), words := 2 }
  | _ => .error .unknownArgument

/-- Reads what follows two dashes. -/
def long (r : Reading) (body : List Char) : Except UsageFault Reading :=
  let name : String := .ofList (body.takeWhile (· != '='))
  let value? := (body.dropWhile (· != '=')).tail?.map String.ofList
  match longFlags.lookup name, value? with
  | none, _ => .error .unknownArgument
  | some (.option slot), some value => r.attached slot value
  | some _, some _ => .error .tooManyValues
  | some f, none => r.flag f

/-- Reads the letters that follow a single dash. -/
def short (r : Reading) : List Char → Except UsageFault Reading
  | [] => .ok r
  | c :: rest =>
    match shortFlags.lookup c, rest with
    | none, _ => .error .unknownArgument
    | some (.option slot), [] => r.flag (.option slot)
    | some (.option slot), '=' :: value => r.attached slot (.ofList value)
    | some (.option slot), value => r.attached slot (.ofList value)
    | some f, rest => do short (← r.flag f) rest

/-- Reads an argument in front of `--`. -/
def argument (r : Reading) (text : String) : Except UsageFault Reading :=
  match text.toList, r.pending? with
  | '-' :: '-' :: body, _ => r.long body
  | '-' :: c :: body, _ => r.short (c :: body)
  | _, some (slot, none) => .ok { r with pending? := some (slot, some text) }
  | _, _ => r.word text

/-- Reads all arguments; behind `--` everything is a word. -/
def all (r : Reading) : List String → Except UsageFault Reading
  | [] => r.settle
  | text :: rest => do
    if text = "--" then (← rest.foldlM word r).settle
    else all (← r.argument text) rest

end Reading

/-- The arguments of a call. Without a structure there must be the wish to see the example. -/
def Arguments.parse (texts : List String) : Except UsageFault Arguments := do
  let r ← Reading.all {} texts
  if r.arguments.structure?.isNone && !r.arguments.printDefault then .error .missingRequired
  else return r.arguments

end Scaffold.CommandLine
