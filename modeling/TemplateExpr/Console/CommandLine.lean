/-!
# The command line

A command line is read from left to right. Options may stand before and behind the operand; `--`
ends the options, and everything behind it is an operand. An option takes its value from the same
word behind an equals sign, or else from the next word, which must not look like an option. No
option may be given twice, but `--config` may stand once before the command and once behind it, and
then the second one counts.

Reading stops at the first word that is wrong and at the first request for help or for the version;
what stands behind it does not matter. Whether an option may have a value that is a word of its own
is settled only when the next option is read, or else at the end: a request for help by a command
comes before a fault of the last option in front of that command.
-/

namespace TemplateExpr.Console

/-- The options of the program and its commands. -/
inductive Switch where
  | data
  | user
  | params
  | page
  | env
  | strict
  | json
  | config
  | help
  | version
deriving DecidableEq

namespace Switch

/-- The name of an option, behind two dashes. -/
def name : Switch → String
  | data => "data"
  | user => "user"
  | params => "params"
  | page => "page"
  | env => "env"
  | strict => "strict"
  | json => "json"
  | config => "config"
  | help => "help"
  | version => "version"

/-- The letter that stands for an option behind one dash. -/
def letter? : Switch → Option Char
  | help => some 'h'
  | version => some 'V'
  | _ => none

/-- What the value of an option is, if it takes one. -/
def valueName? : Switch → Option String
  | data | user | params | page | env => some "JSON|FILE"
  | config => some "FILE"
  | strict | json | help | version => none

/-- Whether an option takes a text as its value. A file must have a name. -/
def accepts (switch : Switch) (value : String) : Bool := switch != config || !value.isEmpty

end Switch

/-- The commands of the program. -/
inductive Verb where
  | eval
  | cond
  | parse
  | lex
  | check
  | repl
deriving DecidableEq

namespace Verb

def all : List Verb := [eval, cond, parse, lex, check, repl]

def name : Verb → String
  | eval => "eval"
  | cond => "cond"
  | parse => "parse"
  | lex => "lex"
  | check => "check"
  | repl => "repl"

/-- The command with the given name. -/
def ofName? (name : String) : Option Verb := all.find? (·.name == name)

/-- The options that give contexts. -/
def contexts : List Switch := [.data, .user, .params, .page, .env]

/-- The options of a command. -/
def switches : Verb → List Switch
  | eval | cond => contexts ++ [.strict, .config, .help]
  | parse => [.json, .config, .help]
  | lex | check => [.config, .help]
  | repl => contexts ++ [.config, .help]

/-- What the operand of a command is, if it takes one. -/
def operand? : Verb → Option String
  | eval => some "TEMPLATE"
  | cond => some "CONDITION"
  | parse | lex | check => some "EXPR"
  | repl => none

end Verb

/-- Where the values of the standard names come from: JSON, or the name of a file with JSON. -/
structure Contexts where
  data : Option String := none
  user : Option String := none
  params : Option String := none
  page : Option String := none
  env : Option String := none

/-- What the program is asked to do. -/
inductive Command where
  | eval (template : String) (contexts : Contexts) (strict : Bool)
  | cond (condition : String) (contexts : Contexts) (strict : Bool)
  | parse (source : String) (json : Bool)
  | lex (source : String)
  | check (source : String)
  | repl (contexts : Contexts)

/-- A command, with the file that holds the configuration. -/
structure Invocation where
  command : Command
  config : Option String := none

/-- What help can be asked for. -/
inductive Topic where
  | program
  | verb (verb : Verb)
  /-- The request for help itself. -/
  | help
deriving DecidableEq

/-- Why a command line asks for no command. -/
inductive Stop where
  /-- The command line is wrong. -/
  | misuse
  /-- Help on a topic, in full or as a summary. -/
  | help (topic : Topic) (full : Bool)
  | version

/-! ## Words -/

/-- What a word looks like. -/
inductive Word where
  | operand
  /-- Two dashes and nothing else. -/
  | separator
  | long (name : String) (value : Option String)
  | short (letter : Char)

/-- What a word looks like. A dash on its own is an operand. -/
def Word.ofText (text : String) : Word :=
  match text.toList with
  | ['-', '-'] => separator
  | '-' :: '-' :: cs =>
    match cs.dropWhile (· != '=') with
    | [] => long (.ofList cs) none
    | _ :: value => long (.ofList (cs.takeWhile (· != '='))) (some (.ofList value))
  | '-' :: letter :: _ => short letter
  | _ => operand

/-- Whether a word can be the value of the option before it. -/
def Word.isOperand : Word → Bool
  | operand => true
  | _ => false

/-- The options that have been read, with their values. An option without a value has an empty
one. -/
structure Given where
  /-- The options that are settled, the last of them first. -/
  settled : List (Switch × String) := []
  /-- The last option, if it is not settled yet. -/
  pending : Option (Switch × String) := none

namespace Given

/-- Settles an option, which must not be given twice. -/
def accept (given : Given) (switch : Switch) (value : String) : Except Stop Given :=
  if given.settled.any (·.1 == switch) || !switch.accepts value then .error .misuse
  else .ok { settled := (switch, value) :: given.settled }

/-- Settles the last option. -/
def settle (given : Given) : Except Stop Given :=
  match given.pending with
  | some (switch, value) => given.accept switch value
  | none => .ok given

/-- Adds an option that is one word, by its name or by its letter. What asks for help or the version
stops the reading; the name asks for help in full. -/
def add (given : Given) (byName : Bool) (switch : Switch) (value : String) :
    Except Stop Given := do
  let given ← given.settle
  match switch with
  | .help => .error (.help .program byName)
  | .version => .error .version
  | switch => given.accept switch value

/-- Adds an option whose value is a word of its own. -/
def addPending (given : Given) (switch : Switch) (value : String) : Except Stop Given :=
  return { ← given.settle with pending := some (switch, value) }

/-- The value of an option that is settled. -/
def value? (given : Given) (switch : Switch) : Option String := given.settled.lookup switch

def has (given : Given) (switch : Switch) : Bool := (given.value? switch).isSome

/-- The options that give contexts. -/
def contexts (given : Given) : Contexts where
  data := given.value? .data
  user := given.value? .user
  params := given.value? .params
  page := given.value? .page
  env := given.value? .env

end Given

/-- Reads options up to the first word that is none, and returns the words from there on. -/
def readOptions (allowed : List Switch) :
    List String → Given → Except Stop (Given × List String)
  | [], given => .ok (given, [])
  | word :: rest, given =>
    match Word.ofText word with
    | .operand | .separator => .ok (given, word :: rest)
    | .short letter =>
      match allowed.find? (·.letter? == some letter) with
      | none => .error .misuse
      | some switch => do readOptions allowed rest (← given.add false switch "")
    | .long name value =>
      match allowed.find? (·.name == name) with
      | none => .error .misuse
      | some switch =>
        match switch.valueName?, value, rest with
        | none, some _, _ => .error .misuse
        | none, none, rest => do readOptions allowed rest (← given.add true switch "")
        | some _, some value, rest => do readOptions allowed rest (← given.add true switch value)
        | some _, none, [] => .error .misuse
        | some _, none, value :: rest =>
          if (Word.ofText value).isOperand then do
            readOptions allowed rest (← given.addPending switch value)
          else .error .misuse

/-- Reads options and operands, of which there may be no more than the given number. -/
def readWords (allowed : List Switch) :
    Nat → List String → Given → Except Stop (Given × List String)
  | operands, words, given => do
    match operands, ← readOptions allowed words given with
    | _, (given, []) => return (given, [])
    | operands, (given, "--" :: rest) =>
      if rest.length ≤ operands then return (given, rest) else .error .misuse
    | 0, _ => .error .misuse
    | operands + 1, (given, operand :: rest) =>
      let (given, others) ← readWords allowed operands rest given
      return (given, operand :: others)

/-! ## Command lines -/

/-- The command that a verb makes with its options and operands. -/
def Verb.command? (verb : Verb) (given : Given) (operands : List String) : Option Command :=
  match verb, operands with
  | .eval, [template] => some (.eval template given.contexts (given.has .strict))
  | .cond, [condition] => some (.cond condition given.contexts (given.has .strict))
  | .parse, [source] => some (.parse source (given.has .json))
  | .lex, [source] => some (.lex source)
  | .check, [source] => some (.check source)
  | .repl, [] => some (.repl given.contexts)
  | _, _ => none

/-- The command that a verb and the words behind it ask for. -/
def readCommand (verb : Verb) (words : List String) : Except Stop Invocation :=
  match readWords verb.switches (if verb.operand?.isSome then 1 else 0) words {} with
  | .error (.help _ full) => .error (.help (.verb verb) full)
  | .error stop => .error stop
  | .ok (given, operands) => do
    let given ← given.settle
    match verb.command? given operands with
    | some command => .ok { command, config := given.value? .config }
    | none => .error .misuse

/-- The options in front of a command. -/
def globalSwitches : List Switch := [.config, .help, .version]

/-- The topic of a request for help with the given words. -/
def Topic.ofWords? : List String → Option Topic
  | [] => some program
  | ["help"] => some help
  | [name] => (Verb.ofName? name).map verb
  | _ => none

/-- The command that a command line asks for. Without one, it is a session. -/
def readCommandLine (words : List String) : Except Stop Invocation := do
  let (given, rest) ← readOptions globalSwitches words {}
  match rest with
  | [] | ["--"] => return { command := .repl {}, config := (← given.settle).value? .config }
  | "help" :: words =>
    match Topic.ofWords? words with
    | some topic => .error (.help topic true)
    | none => .error .misuse
  | name :: words =>
    match Verb.ofName? name with
    | some verb =>
      let invocation ← readCommand verb words
      let given ← given.settle
      return { invocation with config := invocation.config <|> given.value? .config }
    | none => .error .misuse

end TemplateExpr.Console
