import Std.Time.DateTime.Timestamp
import TemplateExpr.Console.Program

/-!
# The executable

Reads the command line, the files it names and the lines of a session, and prints what the program
answers.
-/

namespace TemplateExpr.Console

/-- The current moment. -/
def clock : IO Instant := do
  let nanos := (← Std.Time.Timestamp.now).toNanosecondsSinceUnixEpoch.val
  return ⟨nanos / Instant.nanosPerSecond, (nanos % Instant.nanosPerSecond).toNat⟩

/-- The contents of a file, or why the system does not give them. -/
def fetch (path : String) : IO (Except String String) := do
  try
    return .ok (← IO.FS.readFile path)
  catch
    | .noFileOrDirectory .. => return .error "No such file or directory (os error 2)"
    | e => return .error (toString e)

/-- The files that an invocation names. -/
def fetchAll (invocation : Invocation) : IO Files := do
  let found ← invocation.paths.mapM fun path => return (path, ← fetch path)
  return ⟨fun path => (found.lookup path).getD (.error "not read")⟩

/-- Prints a text at once. -/
def put (text : String) : IO Unit := do
  let out ← IO.getStdout
  out.putStr text
  out.flush

/-- Answers lines until a request to quit or the end of the input. -/
partial def converse (ev : Evaluator) : IO Unit := do
  let line ← (← IO.getStdin).getLine
  if line.isEmpty then put Session.farewell
  else
    let request := Session.Request.ofLine (typed line)
    let (reply, ev) := Session.answer (← clock) ev request
    put reply
    if request ≠ .quit then converse ev

end TemplateExpr.Console

open TemplateExpr.Console in
/-- Runs the program. A file with the configuration may also be named by the environment. -/
def main (words : List String) : IO UInt32 := do
  match readCommandLine words with
  | .error stop =>
    let (text, code) := stop.answer
    put text
    if code ≠ 0 then IO.eprintln "error: wrong command line\n\nFor more information, try '--help'."
    return code.toUInt32
  | .ok invocation =>
    let named ← IO.getEnv "CONSOLE_EXPR_CONFIG"
    let invocation := { invocation with config := invocation.config <|> named }
    match invocation.start (← fetchAll invocation) (← clock) with
    | .done outcome =>
      put outcome.printed
      if let some failure := outcome.failure then IO.eprintln ("Error: " ++ failure.message)
      return outcome.code.toUInt32
    | .session printed ev =>
      put printed
      converse ev
      return 0
