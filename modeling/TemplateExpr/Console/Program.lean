import TemplateExpr.Config.Reader
import TemplateExpr.Console.Lines
import TemplateExpr.Console.Session
import TemplateExpr.Console.Usage
import TemplateExpr.Scope.Standard
import TemplateExpr.Scope.User
import TemplateExpr.Syntax.Outline

/-!
# The program

A run of the program first reads its configuration and then carries out its command. What it takes
from outside are `Files` and the time; what it gives back is an `Outcome`. A session is the one command
that reads lines: `start` goes as far as the first line, so that lines can be answered as they come
in, and `run` answers lines that are all there.
-/

namespace TemplateExpr.Console

/-- The files that a run finds. -/
structure Files where
  /-- The contents of the file under a path, or why it cannot be read. -/
  read : String → Except String String

/-- Why a run fails. -/
inductive Failure where
  | expression (error : ExprError)
  | unreadable (path reason : String)
  /-- The text of an option, or the file that it names, is no JSON. -/
  | invalidJson (given : String)
  | noUser
deriving DecidableEq

/-- The wording of a failure. -/
def Failure.message : Failure → String
  | expression error => error.message
  | unreadable path reason => "cannot read " ++ path ++ ": " ++ reason
  | invalidJson given => "invalid JSON in " ++ given
  | noUser => "--user does not describe a user"

/-- What a run has printed, and why it failed if it did. -/
structure Outcome where
  printed : String
  failure : Option Failure := none

namespace Outcome

/-- The exit code of a run. -/
def code (outcome : Outcome) : Nat := if outcome.failure.isSome then 1 else 0

/-- A run that prints the given text, or prints nothing and fails. -/
def ofResult : Except Failure String → Outcome
  | .ok printed => ⟨printed, none⟩
  | .error failure => ⟨"", some failure⟩

end Outcome

/-- Something that may fail for an error of the language. -/
def lifted {α : Type} (result : Except ExprError α) : Except Failure α :=
  result.mapError .expression

/-! ## Reading contexts -/

/-- Whether the value of an option is JSON itself; otherwise it names a file. -/
def isInline (given : String) : Bool :=
  match Text.trimStart given.toList with
  | '\x7b' :: _ | '[' :: _ => true
  | _ => false

namespace Files

variable (files : Files)

/-- The JSON document that the value of an option gives. -/
def json (given : String) : Except Failure Json := do
  let text ←
    if isInline given then pure given
    else (files.read given).mapError (Failure.unreadable given ·)
  match Json.ofText? text with
  | some document => return document
  | none => .error (.invalidJson given)

/-- The value that an option gives, if the option is there. -/
def value? : Option String → Except Failure (Option Value)
  | none => return none
  | some given => return some (.ofJson (← files.json given))

/-- The user that an option gives, if the option is there. -/
def user? : Option String → Except Failure (Option Value)
  | none => return none
  | some given => do
    match User.ofJson? (← files.json given) with
    | some user => return some user.toValue
    | none => .error .noUser

/-- The scope that the options for contexts give. -/
def scope (contexts : Contexts) : Except Failure Scope := do
  let names : StandardNames := {
    data := ← files.value? contexts.data
    user := ← files.user? contexts.user
    params := ← files.value? contexts.params
    page := ← files.value? contexts.page
    env := ← files.value? contexts.env }
  return names.scope

/-- The configuration in a file, or the default one. -/
def configuration : Option String → Except Failure Config
  | none => return {}
  | some path =>
    match files.read path with
    | .error reason => .error (.expression (.config (.unreadable path reason)))
    | .ok text => lifted (Config.ofText text)

end Files

/-! ## Commands -/

/-- A token on a line of its own, behind its position. -/
def tokenLine (t : Token) : String :=
  String.ofList ((toString t.position).toList.leftpad 4 ' ') ++ "  " ++ t.kind.listing ++ "\n"

/-- The lines of the tokens up to the first error. -/
def tokenLines : List (Except ExprError Token) → Outcome
  | [] => ⟨"", none⟩
  | .ok t :: rest =>
    let others := tokenLines rest
    { others with printed := tokenLine t ++ others.printed }
  | .error e :: _ => ⟨"", some (.expression e)⟩

/-- The report on an expression without errors. -/
def checkReport (e : Expr) : String :=
  let names := e.referencedNames
  "✓ No errors found\n"
    ++ (if names.isEmpty then "" else "  reads: " ++ String.intercalate ", " names ++ "\n")

/-- How far a run gets before it reads a line. -/
inductive Start where
  | done (outcome : Outcome)
  /-- A session has begun. -/
  | session (printed : String) (ev : Evaluator)

/-- Carries out a command. -/
def Command.start (files : Files) (now : Instant) (config : Config) : Command → Start
  | eval template contexts strict => .done <| .ofResult do
    let ev : Evaluator := ⟨← files.scope contexts, config⟩
    let v ← lifted (ev.evaluate now { throwOnError := strict } (.string template))
    return render v ++ "\n"
  | cond condition contexts strict => .done <| .ofResult do
    let ev : Evaluator := ⟨← files.scope contexts, config⟩
    let holds ←
      lifted (ev.evaluateCondition now { throwOnError := strict } (some (.string condition)))
    return toString holds ++ "\n"
  | parse source json => .done <| .ofResult do
    let e ← lifted (TemplateExpr.parse source config.maxDepth)
    return (if json then e.outline.jsonText else e.outline.listing) ++ "\n"
  | lex source => .done (tokenLines (TemplateExpr.lex source))
  | check source => .done <| .ofResult do
    let ev : Evaluator := ⟨.empty, config⟩
    return checkReport (← lifted (ev.validate source))
  | repl contexts =>
    match files.scope contexts with
    | .ok scope => .session Session.banner ⟨scope, config⟩
    | .error failure => .done ⟨Session.banner, some failure⟩

/-- The files that an option for a context may name. -/
def Contexts.paths (contexts : Contexts) : List String :=
  [contexts.data, contexts.user, contexts.params, contexts.page, contexts.env].filterMap
    (·.filter (!isInline ·))

/-- The contexts of a command. -/
def Command.contexts : Command → Contexts
  | eval _ contexts _ | cond _ contexts _ | repl contexts => contexts
  | parse .. | lex _ | check _ => {}

/-- The files that a run may read. -/
def Invocation.paths (invocation : Invocation) : List String :=
  invocation.config.toList ++ invocation.command.contexts.paths

/-- Reads the configuration and carries out the command. -/
def Invocation.start (files : Files) (now : Instant) (invocation : Invocation) : Start :=
  match files.configuration invocation.config with
  | .ok config => invocation.command.start files now config
  | .error failure => .done ⟨"", some failure⟩

/-- A run with the given input. -/
def Invocation.run (files : Files) (now : Instant) (input : String) (invocation : Invocation) :
    Outcome :=
  match invocation.start files now with
  | .done outcome => outcome
  | .session printed ev =>
    ⟨printed ++ Session.transcript ev ((linesOf input).map fun line => (now, line)), none⟩

end TemplateExpr.Console
