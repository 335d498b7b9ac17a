import Scaffold.CommandLine.Arguments
import Scaffold.Text.Lines

/-!
# Usage

What a call prints when its arguments are not taken, and how it ends then.

* Asking for help or for the version is no failure.
* A call without a document gets the whole help; other faults get one line.
-/

namespace Scaffold.CommandLine

/-- The number that a call ends with. -/
def UsageFault.exitCode : UsageFault → Nat
  | .help | .version => 0
  | .missingRequired => 1
  | .unknownArgument | .invalidValue | .repeated | .tooManyValues => 2

def usageLine : String := "Usage: scaffold [OPTIONS] <STRUCTURE> [OUTPUT_DIR]\n"

/-- A flag as it is written, with its letter if it has one. -/
def flagLine (name : String) (flag : Flag) : String :=
  let letter := match shortFlags.find? (·.2 = flag) with
    | some (c, _) => "-" ++ String.singleton c ++ ", "
    | none => "    "
  let value := match flag with
    | .option _ => " <VALUE>"
    | _ => ""
  "  " ++ letter ++ "--" ++ name ++ value ++ "\n"

/-- The usage line and all flags. -/
def helpText : String :=
  usageLine ++ "\nOptions:\n" ++ String.join (longFlags.map fun (name, flag) => flagLine name flag)

def UsageFault.text : UsageFault → String
  | .help | .missingRequired => helpText
  | .version => "scaffold 0.3.0\n"
  | .unknownArgument => "error: unexpected argument\n" ++ usageLine
  | .invalidValue => "error: a value is missing or not one of the possible values\n" ++ usageLine
  | .repeated => "error: an argument is given more than once\n" ++ usageLine
  | .tooManyValues => "error: a value is given to a switch\n" ++ usageLine

/-- Asking for help, or for nothing, prints to the output; faults of the arguments are errors. -/
def UsageFault.isError (f : UsageFault) : Bool := f.exitCode = 2

end Scaffold.CommandLine
