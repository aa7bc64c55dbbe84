import TemplateExpr.Console.CommandLine

/-!
# Help on the command line

The help texts are put together from the tables of commands and options, so that they name exactly
what the reader of the command line takes. A command with more to say than its summary has two
texts, a summary in which each option takes a line, and a full one in which each has a paragraph.
-/

namespace TemplateExpr.Console

/-- The name of the program. -/
def programName : String := "console-expr"

/-- The answer to the question for the version. -/
def versionText : String := programName ++ " 0.1.0\n"

namespace Switch

/-- What an option does. -/
def summary : Switch → String
  | data => "Current record, bound as `data`, `record` and `form`"
  | user => "Authenticated user (id, name, email, roles, locale, timezone, avatar)"
  | params => "Route and query parameters"
  | page => "Page metadata and variables"
  | env => "Environment values"
  | strict => "Fail on the first evaluation error instead of degrading"
  | json => "Output as JSON"
  | config => "Evaluator configuration (TOML)"
  | help => "Print help"
  | version => "Print version"

/-- Where the value of an option comes from if it is not given. -/
def source? : Switch → Option String
  | config => some "[env: CONSOLE_EXPR_CONFIG=]"
  | _ => none

/-- How an option is written. -/
def form (switch : Switch) : String :=
  let letter :=
    match switch.letter? with
    | some letter => "-" ++ String.singleton letter ++ ", "
    | none => "    "
  let value :=
    match switch.valueName? with
    | some value => " <" ++ value ++ ">"
    | none => ""
  letter ++ "--" ++ switch.name ++ value

end Switch

namespace Verb

/-- What a command does. -/
def summary : Verb → String
  | eval => "Evaluate a template and print the result as JSON"
  | cond => "Evaluate a visibility condition and print true or false"
  | parse => "Parse an expression and display the AST"
  | lex => "Tokenize an expression and display tokens"
  | check => "Check an expression for errors without evaluating it"
  | repl => "Start an interactive session"

/-- What is to be said about a command besides its summary. -/
def details? : Verb → Option String
  | eval =>
    some <| "Examples: console-expr eval '$\x7bdata.amount * 2\x7d' "
      ++ "--data '\x7b\"amount\": 21\x7d' console-expr eval 'Hello $\x7buser.name\x7d' --user user.json"
  | _ => none

/-- What the operand of a command holds. -/
def operandSummary : Verb → String
  | eval => "Template text, e.g. 'Total: $\x7bSUM(data.items, \"price\")\x7d'"
  | cond => "Condition template, e.g. '$\x7bdata.status === \"active\"\x7d'"
  | parse | lex | check => "Bare expression (no $\x7b\x7d wrapper)"
  | repl => ""

end Verb

/-! ## Tables -/

/-- What a table says about an argument. -/
structure Row where
  /-- How the argument is written. -/
  form : String
  summary : String
  /-- Where its value comes from if it is not given. -/
  source? : Option String := none

/-- How the entries of a table are set. -/
inductive Style where
  /-- In two columns. -/
  | lines
  /-- Each in a paragraph under what it is about. -/
  | paragraphs
deriving DecidableEq

namespace Row

/-- A row in two columns, of which the first has the given width. -/
def line (width : Nat) (row : Row) : String :=
  let source :=
    match row.source? with
    | some source => " " ++ source
    | none => ""
  let form := String.ofList (row.form.toList.rightpad width ' ')
  "  " ++ form ++ "  " ++ row.summary ++ source ++ "\n"

/-- A row as a paragraph. -/
def paragraph (row : Row) : String :=
  let margin := "\n          "
  let source :=
    match row.source? with
    | some source => margin ++ margin ++ source
    | none => ""
  "  " ++ row.form ++ margin ++ row.summary ++ source ++ "\n"

end Row

/-- Rows under a heading. -/
def table (style : Style) (heading : String) (rows : List Row) : String :=
  let body :=
    match style with
    | .lines =>
      let width := rows.foldl (fun width row => max width row.form.length) 0
      String.join (rows.map (Row.line width))
    | .paragraphs => String.intercalate "\n" (rows.map Row.paragraph)
  "\n" ++ heading ++ ":\n" ++ body

/-- The table of options. What is said about the request for help depends on the other texts there
are. -/
def optionTable (style : Style) (aboutHelp : String) (switches : List Switch) : String :=
  table style "Options" <| switches.map fun switch =>
    { form := switch.form
      summary := if switch = .help then switch.summary ++ aboutHelp else switch.summary
      source? := switch.source? }

/-- A line that shows how the program is called. -/
def usageLine (words : List String) : String :=
  "Usage: " ++ String.intercalate " " (programName :: words) ++ "\n"

/-! ## Texts -/

/-- What the request for help does. -/
def helpSummary : String := "Print this message or the help of the given subcommand(s)"

/-- Help on the program. -/
def programHelp : String :=
  let verbs := Verb.all.map fun verb => { form := verb.name, summary := verb.summary : Row }
  "Evaluate $\x7b...\x7d template expressions against a console context\n\n"
    ++ usageLine ["[OPTIONS]", "[COMMAND]"]
    ++ table .lines "Commands" (verbs ++ [{ form := "help", summary := helpSummary }])
    ++ optionTable .lines "" globalSwitches

/-- Help on the request for help. -/
def helpHelp : String :=
  let operand := "[COMMAND]..."
  helpSummary ++ "\n\n" ++ usageLine ["help", operand]
    ++ table .lines "Arguments" [{ form := operand, summary := "Print help for the subcommand(s)" }]

/-- Help on a command, set in a style. -/
def Verb.helpIn (style : Style) (about aboutHelp : String) (verb : Verb) : String :=
  let operand := verb.operand?.map fun name => "<" ++ name ++ ">"
  about ++ "\n\n" ++ usageLine (verb.name :: "[OPTIONS]" :: operand.toList)
    ++ (match operand with
      | some form => table style "Arguments" [{ form, summary := verb.operandSummary }]
      | none => "")
    ++ optionTable style aboutHelp verb.switches

/-- Help on a command, in full or as a summary. They differ if there are details. -/
def Verb.help (full : Bool) (verb : Verb) : String :=
  match verb.details?, full with
  | none, _ => verb.helpIn .lines verb.summary ""
  | some _, false => verb.helpIn .lines verb.summary " (see more with '--help')"
  | some details, true =>
    verb.helpIn .paragraphs (verb.summary ++ "\n\n" ++ details) " (see a summary with '-h')"

/-- The help on a topic. -/
def Topic.text (full : Bool) : Topic → String
  | program => programHelp
  | help => helpHelp
  | verb v => v.help full

/-- What the program prints when it stops before any command, and its exit code. A wrong command
line prints nothing. -/
def Stop.answer : Stop → String × Nat
  | misuse => ("", 2)
  | help topic full => (topic.text full, 0)
  | version => (versionText, 0)

end TemplateExpr.Console
