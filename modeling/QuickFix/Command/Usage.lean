import QuickFix.Command.Argument
import QuickFix.Command.Similar
import QuickFix.Log.Format
import QuickFix.Text.Terminal

/-!
# Options and the errors of their use

The options that a command line may hold, the texts that explain them, and what is said about a
command line that is not understood. What is quoted from the command line is shown as a terminal
would show it.
-/

set_option autoImplicit false

namespace QuickFix.Command

open QuickFix.Text (Span)

/-- What may stand on the command line. -/
inductive Flag
  | input
  | cursor
  | pretty
  | logFilter
  | logFormat
  | help
  | version
  deriving DecidableEq, Repr

namespace Flag

/-- The name of an option behind two dashes. -/
def long : Flag → String
  | .input => ""
  | .cursor => "at"
  | .pretty => "pretty"
  | .logFilter => "log-filter"
  | .logFormat => "log-format"
  | .help => "help"
  | .version => "version"

/-- The options that have a name. -/
def named : List Flag :=
  [.cursor, .pretty, .logFilter, .logFormat, .help, .version]

/-- The options that the program works with, other than those answered at once. -/
def working : List Flag :=
  [.cursor, .pretty, .logFilter, .logFormat]

/-- The option with this name. -/
def ofLong? (name : String) : Option Flag :=
  named.find? fun f => f.long == name

/-- Whether a value belongs to the option. -/
def takesValue : Flag → Bool
  | .input | .cursor | .logFilter | .logFormat => true
  | .pretty | .help | .version => false

/-- The option with the name of its value. -/
def shown : Flag → String
  | .input => "<INPUT>"
  | .cursor => "--at <LINE:CHARACTER>"
  | .logFilter => "--log-filter <FILTER>"
  | .logFormat => "--log-format <LOG_FORMAT>"
  | f => "--" ++ f.long

end Flag

/-- A line that shows how the program is used. -/
inductive Usage
  /-- Any options. -/
  | general
  /-- With these options. -/
  | options (flags : List Flag)
  /-- With these options, and one thing out of all that the program works with. -/
  | choice (flags : List Flag)

/-- The line. -/
def Usage.line : Usage → String
  | .general => "mender [OPTIONS] <INPUT>"
  | .options flags =>
    "mender" ++
      String.join ((flags.filter (· ≠ Flag.input)).eraseDups.map fun f => " " ++ f.shown) ++
      " <INPUT>"
  | .choice flags =>
    "mender" ++ String.join (flags.map fun f => " " ++ f.shown) ++ " <" ++
      "|".intercalate ("INPUT" :: Flag.working.map Flag.shown) ++ ">"

/-- The usage with the options given, if there are any. -/
def Usage.ofGiven (flags : List Flag) : Usage :=
  if flags.isEmpty then .general else .options flags

/-- Advice about an argument that was not understood. -/
inductive Tip
  | none
  /-- It can be passed behind two dashes. -/
  | asValue
  | similar (flag : Flag)

/-- Why a command line is not understood. -/
inductive UsageFault
  | missingInput (given : List Flag)
  | unexpectedArgument (shown : String) (tip : Tip) (usage : Usage)
  | repeated (flag : Flag)
  | needlessValue (value : String) (flag : Flag) (usage : Usage)
  | missingValue (flag : Flag)
  | badCursor (value : String)
  | badFormat (value : String)
  | notText

/-- The names of the log formats, for a choice. -/
def possibleFormats : String :=
  "\n  [possible values: " ++ ", ".intercalate (Log.Format.all.map Log.Format.name) ++ "]"

/-- The usage of the program, as the last block of an error's text. -/
def Usage.block (u : Usage) : List Span :=
  [.plain ("Usage: " ++ u.line)]

/-- Advice about an argument, as a block of an error's text. -/
def Tip.blocks (shown : String) : Tip → List (List Span)
  | .none => []
  | .asValue =>
    [[.plain "  tip: to pass '", .mark shown, .plain "' as a value, use '", .mark ("-- " ++ shown),
      .plain "'"]]
  | .similar flag => [[.plain ("  tip: a similar argument exists: '--" ++ flag.long ++ "'")]]

/-- The blocks of an error's text: what is wrong, advice, and the usage. -/
def UsageFault.blocks : UsageFault → List (List Span)
  | .missingInput given =>
    [[.plain ("the following required arguments were not provided:\n  " ++ Flag.input.shown)],
     (Usage.options given).block]
  | .unexpectedArgument shown tip usage =>
    [[.plain "unexpected argument '", .mark shown, .plain "' found"]] ++ tip.blocks shown ++
      [usage.block]
  | .repeated flag =>
    [[.plain ("the argument '" ++ flag.shown ++ "' cannot be used multiple times")],
     Usage.general.block]
  | .needlessValue value flag usage =>
    [[.plain "unexpected value '", .mark value,
      .plain ("' for '" ++ flag.shown ++ "' found; no more were expected")],
     usage.block]
  | .missingValue flag =>
    [[.plain ("a value is required for '" ++ flag.shown ++ "' but none was supplied" ++
      (if flag = .logFormat then possibleFormats else ""))]]
  | .badCursor value =>
    [[.plain "invalid value '", .mark value, .plain ("' for '" ++ Flag.cursor.shown ++
      "': expected LINE:CHARACTER, got '" ++ value ++ "'")]]
  | .badFormat value =>
    [[.plain "invalid value '", .mark value,
      .plain ("' for '" ++ Flag.logFormat.shown ++ "'" ++ possibleFormats)]] ++
    (match mostSimilar? Log.Format.name Log.Format.all value with
      | some f => [[.plain ("  tip: a similar value exists: '" ++ f.name ++ "'")]]
      | none => [])
  | .notText =>
    [[.plain "invalid UTF-8 was detected in one or more arguments"], Usage.general.block]

/-- The last block of an error's text, a hint at the help. -/
def helpHint : List Span :=
  [.plain "For more information, try '", .mark "--help", .plain "'.\n"]

/-- The text of an error, block after block with a blank line between. -/
def UsageFault.message (f : UsageFault) : String :=
  Text.visible (.plain "error: " ::
    f.blocks.flatMap (fun block => block ++ [.plain "\n\n"]) ++ helpHint)

/-- The version of the program. -/
def versionText : String := "mender 0.1.0\n"

/-- The short help. -/
def shortHelp : String :=
  "\n".intercalate
    ["Prints the quick fixes available for a file's diagnostics",
     "",
     "Usage: mender [OPTIONS] <INPUT>",
     "",
     "Arguments:",
     "  <INPUT>  JSON document with a `path` and its `diagnostics`, or `-` for stdin",
     "",
     "Options:",
     "      --at <LINE:CHARACTER>      Only prints actions whose range contains " ++
       "`LINE:CHARACTER` (0-based)",
     "      --pretty                   Pretty-prints the JSON output",
     "      --log-filter <FILTER>      Tracing filter directives written to stderr [default: warn]",
     "      --log-format <LOG_FORMAT>  Log line format [default: compact] " ++
       "[possible values: json, compact]",
     "  -h, --help                     Print help (see more with '--help')",
     "  -V, --version                  Print version",
     ""]

/-- The help in full. -/
def longHelp : String :=
  "\n".intercalate
    ["Prints the quick fixes available for a file's diagnostics",
     "",
     "Usage: mender [OPTIONS] <INPUT>",
     "",
     "Arguments:",
     "  <INPUT>",
     "          JSON document with a `path` and its `diagnostics`, or `-` for stdin",
     "",
     "Options:",
     "      --at <LINE:CHARACTER>",
     "          Only prints actions whose range contains `LINE:CHARACTER` (0-based)",
     "",
     "      --pretty",
     "          Pretty-prints the JSON output",
     "",
     "      --log-filter <FILTER>",
     "          Tracing filter directives written to stderr",
     "          ",
     "          [default: warn]",
     "",
     "      --log-format <LOG_FORMAT>",
     "          Log line format",
     "",
     "          Possible values:",
     "          - json:    Structured JSON suitable for ingestion by logging stacks",
     "          - compact: Human-readable single line output",
     "          ",
     "          [default: compact]",
     "",
     "  -h, --help",
     "          Print help (see a summary with '-h')",
     "",
     "  -V, --version",
     "          Print version",
     ""]

end QuickFix.Command
