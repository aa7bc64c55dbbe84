import TemplateExpr.Evaluator
import TemplateExpr.Json.Reader
import TemplateExpr.Json.Writer
import TemplateExpr.Value.Json

/-!
# Interactive sessions

A session answers one line after the other. A line is first read as a `Request`, which takes nothing
but the line; `answer` then says what a request prints and what it leaves of the evaluator. Only
`:set` with a name and a JSON document changes the evaluator, and only its bindings.
-/

namespace TemplateExpr.Console

/-- A value as the program prints it. -/
def render : Value → String
  | .undefined => "undefined"
  | v => v.toJson.pretty

namespace Session

/-- What a line of a session asks for. -/
inductive Request where
  /-- The line is blank. -/
  | nothing
  | quit
  | help
  /-- Bind a name to the value that a JSON text denotes. -/
  | bind (name json : String)
  /-- A binding without a name or without a text. -/
  | incompleteBind
  | bindings
  | functions
  | unknown (command : String)
  | template (text : String)
  | expression (text : String)
deriving DecidableEq

/-- Cuts a text at its first blank: the characters before it, and those behind it if there is
one. -/
def cutAtBlank (cs : List Char) : List Char × Option (List Char) :=
  (cs.takeWhile (!Text.isBlank ·), (cs.dropWhile (!Text.isBlank ·)).tail?)

/-- The binding that stands behind `:set`. One blank ends the name; the text may have more around
it. -/
def readBind (arguments : Option (List Char)) : Request :=
  match cutAtBlank (arguments.getD []) with
  | (name, some text) =>
    let json := Text.trim text
    if name.isEmpty || json.isEmpty then .incompleteBind else .bind (.ofList name) (.ofList json)
  | _ => .incompleteBind

/-- The request that a line is. -/
def Request.ofLine (line : String) : Request :=
  match Text.trim line.toList with
  | [] => nothing
  | ':' :: cs =>
    let (command, arguments) := cutAtBlank (':' :: cs)
    match String.ofList command with
    | ":quit" | ":q" | ":exit" => quit
    | ":help" | ":h" => help
    | ":set" => readBind arguments
    | ":ctx" => bindings
    | ":functions" => functions
    | command => unknown command
  | cs =>
    if Text.contains cs "$\x7b".toList then template (.ofList cs) else expression (.ofList cs)

/-- What a session prints before the first line. -/
def banner : String :=
  "console-expr interactive session\nType :help for help, :quit to exit\n\n"

/-- What a session prints at its end. -/
def farewell : String := "Goodbye!\n"

/-- The answer to a request for help. -/
def helpText : String :=
  "\nSession Commands:\n"
    ++ "  :help, :h          - Show this help message\n"
    ++ "  :quit, :q, :exit   - Exit the session\n"
    ++ "  :set <name> <json> - Bind a variable, e.g. :set data \x7b\"amount\": 5\x7d\n"
    ++ "  :ctx               - Show every visible binding\n"
    ++ "  :functions         - List formula functions\n"
    ++ "\nExamples:\n"
    ++ "  data.amount * 1.2\n"
    ++ "  SUM(data.items, 'price')\n"
    ++ "  Hello $\x7buser.name ?? 'guest'\x7d\n\n"

/-- A report of something that went wrong. -/
def errorLine (message : String) : String := "Error: " ++ message ++ "\n"

/-- What the evaluation of a line prints. -/
def resultLine : Except ExprError Value → String
  | .ok v => render v ++ "\n"
  | .error e => errorLine e.message

/-- Lines are evaluated strictly. -/
def options : EvalOptions := { throwOnError := true }

/-- What a request prints, and the evaluator after it. -/
def answer (now : Instant) (ev : Evaluator) : Request → String × Evaluator
  | .nothing => ("", ev)
  | .quit => (farewell, ev)
  | .help => (helpText, ev)
  | .bind name json =>
    match Json.ofText? json with
    | some document => (name ++ " = " ++ json ++ "\n", ev.extend [(name, .ofJson document)])
    | none => (errorLine ("invalid JSON: " ++ json), ev)
  | .incompleteBind => (errorLine "usage: :set <name> <json>", ev)
  | .bindings =>
    let line (field : String × Value) : String :=
      "  " ++ field.1 ++ " = " ++ field.2.toJson.compact ++ "\n"
    (String.join (ev.scope.flatten.map line), ev)
  | .functions => ("  " ++ String.intercalate ", " (Formula.all.map (·.name)) ++ "\n", ev)
  | .unknown command => (errorLine ("Unknown command: " ++ command), ev)
  | .template text => (resultLine (ev.evaluate now options (.string text)), ev)
  | .expression text => (resultLine (ev.evaluateExpression now options text), ev)

/-- What a session prints for lines, each with the moment at which it is answered. It ends at a
request to quit, or else with the lines. -/
def transcript : Evaluator → List (Instant × String) → String
  | _, [] => farewell
  | ev, (now, line) :: lines =>
    let request := Request.ofLine line
    let (reply, next) := answer now ev request
    if request = .quit then reply else reply ++ transcript next lines

end Session

end TemplateExpr.Console
