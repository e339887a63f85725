import OperationHooks.CommandLine.Fetching

/-!
# Wrong usage

What may be wrong with the arguments of the command line, and how it is said. Most messages remind
of the usage of the command that was reached.
-/

namespace OperationHooks

namespace CommandLine

/-- The commands: the program, and the one it has. -/
inductive Command where
  | program
  | generate
deriving DecidableEq, Repr

/-- The words that a command is called by. -/
def Command.words : Command → String
  | .program => "main"
  | .generate => "main generate"

/-- What is expected behind the words of a command. -/
def Command.arguments : Command → String
  | .program => "[OPTIONS] COMMAND [ARGS]..."
  | .generate => "[OPTIONS]"

/-- The line that shows the usage of a command. -/
def Command.usageLine (c : Command) : String := "Usage: " ++ c.words ++ " " ++ c.arguments

/-- The lines that remind of the usage of a command. -/
def Command.reminder (c : Command) : List String :=
  [c.usageLine, "Try '" ++ c.words ++ " --help' for help.", ""]

/-- What is wrong with the arguments. Options are named the way they were written, or all the ways
they can be written if they were not. -/
inductive UsageFault where
  | noSuchCommand (name : String) (near : List String)
  | noCommand
  | noSuchOption (name : String) (near : List String)
  | needsValue (name : String)
  | takesNoValue (name : String)
  | noSuchPath (option path : String)
  | missing (option : String)
  | extraArguments (arguments : List String)
  | misused (misuse : Misuse)
deriving DecidableEq, Repr

/-- A remark about names that may have been meant. -/
def nearNames (names : List String) : String :=
  match names.mergeSort (fun a b => decide (a ≤ b)) with
  | [] => ""
  | [one] => " Did you mean " ++ quoteText one ++ "?"
  | several => " (Did you mean one of: " ++ ", ".intercalate (several.map quoteText) ++ "?)"

/-- The wording of the fault. -/
def UsageFault.message : UsageFault → String
  | .noSuchCommand name near => "No such command " ++ quoteText name ++ "." ++ nearNames near
  | .noCommand => "Missing command."
  | .noSuchOption name near => "No such option " ++ quoteText name ++ "." ++ nearNames near
  | .needsValue name => "Option " ++ quoteText name ++ " requires an argument."
  | .takesNoValue name => "Option " ++ quoteText name ++ " does not take a value."
  | .noSuchPath option path =>
    "Invalid value for " ++ option ++ ": Path " ++ quoteText path ++ " does not exist."
  | .missing option => "Missing option " ++ option ++ "."
  | .extraArguments arguments =>
    "Got unexpected extra " ++ (if arguments.length = 1 then "argument" else "arguments")
      ++ " (" ++ " ".intercalate arguments ++ ")"
  | .misused m => "Invalid value for " ++ m.option ++ ": " ++ m.message

/-- Whether a message comes with a reminder of the usage. What is wrong with the value of an option
is said without it, because it is seen before the command is known to be complete. -/
def UsageFault.reminds : UsageFault → Bool
  | .needsValue _ => false
  | .takesNoValue _ => false
  | _ => true

/-- The lines of a message about the arguments of a command. -/
def UsageFault.report (f : UsageFault) (c : Command) : List String :=
  (if f.reminds then c.reminder else []) ++ ["Error: " ++ f.message]

end CommandLine

end OperationHooks
