import StoryCatalog.CommandLine.Grammar
import StoryCatalog.Extract

/-!
# Commands of the program

The four commands with their switches, their usage and help texts, and the invocation that a list of
arguments asks for.
-/

namespace StoryCatalog

namespace CommandLine

/-- What the program can be asked to do. -/
inductive Command where
  | list
  | generate
  | validate
  | verify
deriving DecidableEq, Repr

namespace Command

/-- All commands, in the order in which they are shown. -/
def all : List Command := [.list, .generate, .validate, .verify]

/-- The name of a command. -/
def name : Command → String
  | .list => "list"
  | .generate => "generate"
  | .validate => "validate"
  | .verify => "verify"

/-- The command with a name. -/
def ofName? (name : Text) : Option Command :=
  all.find? fun command => Text.ofString command.name == name

end Command

/-- The name of the program. -/
def programName : String := "storymap"

/-- The switch that asks for help. -/
def helpSwitch : Switch := ⟨["-h", "--help"].map Text.ofString, .help⟩

/-- A switch with one spelling. -/
def longSwitch (name : String) (kind : SwitchKind) : Switch := ⟨[Text.ofString name], kind⟩

/-- The switch that asks for a more talkative log. -/
def verboseSwitch : Switch := ⟨["-v", "--verbose"].map Text.ofString, .mark⟩

/-- The grammar of the program itself. -/
def programGrammar : Grammar where
  switches := [helpSwitch, verboseSwitch]
  operandName := "command"
  operandKind := .command (Command.all.map fun command => Text.ofString command.name)

namespace Command

/-- The grammar of a command. -/
def grammar : Command → Grammar
  | .list =>
      { switches :=
          [helpSwitch,
            longSwitch "--backend" (.value (Backend.all.map fun b => Text.ofString b.name)),
            longSwitch "--context" .mark, longSwitch "--no-color" .mark]
        operandName := "file"
        operandKind := .required }
  | .generate => ⟨[helpSwitch, longSwitch "--out-dir" (.value [])], "root", .optional⟩
  | .validate | .verify =>
      ⟨[helpSwitch, longSwitch "--artifacts-dir" (.value [])], "root", .optional⟩

end Command

/-- The usage of the program. -/
def programUsage : String :=
  "usage: storymap [-h] [-v] \x7blist,generate,validate,verify\x7d ...\n"

/-- What follows the usage in the help of the program. -/
def programDetails : String :=
  "\npositional arguments:\n"
    ++ "  \x7blist,generate,validate,verify\x7d\n"
    ++ "    list                List stories in one file\n"
    ++ "    generate            Generate artifacts\n"
    ++ "    validate            Validate artifacts\n"
    ++ "    verify              Verify determinism of artifacts\n"
    ++ "\noptions:\n"
    ++ "  -h, --help            show this help message and exit\n"
    ++ "  -v, --verbose         Increase log verbosity (-v info, -vv debug)\n"

namespace Command

/-- The usage of a command. -/
def usage : Command → String
  | .list =>
      "usage: storymap list [-h] [--backend \x7besprima,treesitter\x7d] [--context]\n"
        ++ "                     [--no-color]\n"
        ++ "                     file\n"
  | .generate => "usage: storymap generate [-h] [--out-dir OUT_DIR] [root]\n"
  | .validate => "usage: storymap validate [-h] [--artifacts-dir ARTIFACTS_DIR] [root]\n"
  | .verify => "usage: storymap verify [-h] [--artifacts-dir ARTIFACTS_DIR] [root]\n"

/-- What follows the usage in the help of a command that checks artifacts. -/
def artifactsDetails : String :=
  "\npositional arguments:\n"
    ++ "  root                  Repository root (default: .)\n"
    ++ "\noptions:\n"
    ++ "  -h, --help            show this help message and exit\n"
    ++ "  --artifacts-dir ARTIFACTS_DIR\n"
    ++ "                        Artifacts directory (default: config output dir)\n"

/-- What follows the usage in the help of a command. -/
def details : Command → String
  | .list =>
      "\npositional arguments:\n"
        ++ "  file                  Source file to scan\n"
        ++ "\noptions:\n"
        ++ "  -h, --help            show this help message and exit\n"
        ++ "  --backend \x7besprima,treesitter\x7d\n"
        ++ "                        Parser backend (default: config backend)\n"
        ++ "  --context             Show the surrounding source lines for each story\n"
        ++ "  --no-color            Disable ANSI colors in --context output\n"
  | .generate =>
      "\npositional arguments:\n"
        ++ "  root               Repository root (default: .)\n"
        ++ "\noptions:\n"
        ++ "  -h, --help         show this help message and exit\n"
        ++ "  --out-dir OUT_DIR  Output directory for generated artifacts (default: config\n"
        ++ "                     output dir)\n"
  | .validate | .verify => artifactsDetails

end Command

/-- A task with all that the command line says about it. -/
inductive Task where
  | list (file : Text) (backend : Option Backend) (context color : Bool)
  | generate (root : Text) (outDir : Option Text)
  | validate (root : Text) (artifactsDir : Option Text)
  | verify (root : Text) (artifactsDir : Option Text)
deriving DecidableEq, Repr

/-- A task, and how often a more talkative log was asked for. -/
structure Invocation where
  verbosity : Nat
  task : Task
deriving DecidableEq, Repr

/-- The answer to arguments that are no invocation: a text for the reader and whether it is a
complaint. -/
structure Reply where
  text : Text
  complaint : Bool
deriving DecidableEq, Repr

/-- The reply when reading arguments has stopped. -/
def Stop.reply (program usage details : String) : Stop → Reply
  | .help => ⟨usage ++ Text.ofString details, false⟩
  | .wrong message => ⟨usage ++ program ++ ": error: " ++ message ++ "\n", true⟩

/-- The reply of the program itself. -/
def programReply (stop : Stop) : Reply :=
  stop.reply programName programUsage programDetails

/-- The reply of a command. -/
def Command.reply (command : Command) (stop : Stop) : Reply :=
  stop.reply (programName ++ " " ++ command.name) command.usage command.details

/-- The value that a switch was given last. -/
def Parsed.value? (parsed : Parsed) (name : Text) : Option Text :=
  parsed.values.lookup name

/-- A switch without a value was given. -/
def Parsed.has (parsed : Parsed) (name : Text) : Bool :=
  parsed.marks.contains name

/-- The task that the arguments of a command ask for. -/
def Command.task (command : Command) (parsed : Parsed) : Task :=
  let root : Text := (parsed.operand.bind List.head?).getD "."
  match command with
  | .list =>
      .list root ((parsed.value? "--backend").bind fun name =>
          Backend.all.find? fun backend => Text.ofString backend.name == name)
        (parsed.has "--context") (!parsed.has "--no-color")
  | .generate => .generate root (parsed.value? "--out-dir")
  | .validate => .validate root (parsed.value? "--artifacts-dir")
  | .verify => .verify root (parsed.value? "--artifacts-dir")

/-- The complaint about arguments that nothing takes. -/
def leftOverStop (arguments : List Text) : Stop :=
  .wrong ("unrecognized arguments: " ++ Text.join " " arguments)

/-- Read the arguments of the program. -/
def readInvocation (arguments : List Text) : Except Reply Invocation :=
  match programGrammar.parse arguments with
  | .error stop => .error (programReply stop)
  | .ok outer =>
      match outer.operand.bind List.head? |>.bind Command.ofName? with
      | none => .error (programReply programGrammar.missing)
      | some command =>
          match command.grammar.parse (outer.operand.getD []).tail with
          | .error stop => .error (command.reply stop)
          | .ok inner =>
              match outer.leftOver ++ inner.leftOver with
              | [] => .ok ⟨outer.marks.length, command.task inner⟩
              | left => .error (programReply (leftOverStop left))

end CommandLine

end StoryCatalog
