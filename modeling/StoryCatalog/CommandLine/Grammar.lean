import StoryCatalog.Text.Digit
import StoryCatalog.Text.Quoted

/-!
# Reading a command line

A command has switches and one operand. Arguments that start with a hyphen are switches, unless they
look like a negative number, hold a blank or stand behind `--`. A long switch may be shortened as
long as only one switch starts like it, and short switches without a value may share a hyphen. What
nothing takes is left over and kept for a complaint of the caller.
-/

namespace StoryCatalog

namespace CommandLine

/-- What a switch does. -/
inductive SwitchKind where
  /-- It asks for help. -/
  | help
  /-- It counts how often it is given. -/
  | mark
  /-- It takes a value; if choices are listed, one of them. -/
  | value (choices : List Text)
deriving DecidableEq, Repr

/-- A switch: its spellings and what it does. -/
structure Switch where
  names : List Text
  kind : SwitchKind
deriving DecidableEq, Repr

/-- What the operand of a command is. -/
inductive OperandKind where
  /-- One argument. -/
  | required
  /-- One argument or none. -/
  | optional
  /-- The name of a command of its own, with all arguments behind it. -/
  | command (choices : List Text)
deriving DecidableEq, Repr

/-- The switches and the operand of a command. -/
structure Grammar where
  switches : List Switch
  operandName : Text
  operandKind : OperandKind
deriving DecidableEq, Repr

/-- Why reading stops before the end: help is asked for, or something is wrong. -/
inductive Stop where
  | help
  | wrong (message : Text)
deriving DecidableEq, Repr

/-- What has been read: the switches without a value, by their last spelling, once for each time
given; the values of switches, the latest first; the operand with what belongs to it; and what is
left over. -/
structure Parsed where
  marks : List Text
  values : List (Text × Text)
  operand : Option (List Text)
  leftOver : List Text
deriving DecidableEq, Repr

/-- An argument by its look. A switch that no one knows has no meaning; the value is what the
argument itself brings along, and `joined` tells a value behind an equals sign from the rest of a
group of short switches. -/
inductive Token where
  | plain (argument : Text)
  | separator
  | unknown (argument : Text)
  | switch (argument : Text) (switch : Switch) (name : Text) (value : Option Text) (joined : Bool)
deriving DecidableEq, Repr

/-- The argument that a token was made of. -/
def Token.argument : Token → Text
  | .plain argument => argument
  | .separator => "--"
  | .unknown argument => argument
  | .switch argument .. => argument

/-- The name by which complaints speak of a switch. -/
def Switch.title (switch : Switch) : Text :=
  Text.join "/" switch.names

/-- The last spelling of a switch, under which it is kept. -/
def Switch.key (switch : Switch) : Text :=
  switch.names.getLastD []

/-- A complaint about a switch or an operand. -/
def complain (title message : Text) : Stop :=
  .wrong ("argument " ++ title ++ ": " ++ message)

/-- The complaint about a value that is none of the choices. -/
def notAChoice (value : Text) (choices : List Text) : Text :=
  "invalid choice: " ++ value.quoted ++ " (choose from "
    ++ Text.join ", " (choices.map Text.quoted) ++ ")"

namespace Grammar

/-- All spellings of switches, in order. -/
def spellings (grammar : Grammar) : List (Text × Switch) :=
  grammar.switches.flatMap fun switch => switch.names.map (·, switch)

/-- The switch with a spelling. -/
def switch? (grammar : Grammar) (name : Text) : Option Switch :=
  grammar.spellings.lookup name

/-- The parts of an argument before and behind its first equals sign. -/
def splitAtEquals (argument : Text) : Text × Option Text :=
  let before := argument.takeWhile (· ≠ 0x3D)
  if before.length < argument.length then (before, some (argument.drop (before.length + 1)))
  else (before, none)

/-- The switches that an argument may be short for. An argument with two hyphens may be the start of
a long switch; one with a single hyphen may also be a short switch with more behind it. -/
def readings (grammar : Grammar) (argument : Text) : List Token :=
  if argument.take 2 = [0x2D, 0x2D] then
    let (start, value) := splitAtEquals argument
    grammar.spellings.filterMap fun (name, switch) =>
      if start.isPrefixOf name then some (.switch argument switch name value true) else none
  else
    grammar.spellings.filterMap fun (name, switch) =>
      if name = argument.take 2 then
        some (.switch argument switch name (some (argument.drop 2)) false)
      else if argument.isPrefixOf name then some (.switch argument switch name none false)
      else none

/-- The name of the switch that a token reads. -/
def readingName : Token → Text
  | .switch _ _ name .. => name
  | token => token.argument

/-- Digits, with at most one point that has digits behind it. -/
def isNumber (t : Text) : Bool :=
  let isDigit (c : CodePoint) : Bool := c.decimalValue?.isSome
  match t.dropWhile isDigit with
  | [] => !t.isEmpty
  | point :: places => point = 0x2E && !places.isEmpty && places.all isDigit

/-- The token of an argument before any separator. -/
def token (grammar : Grammar) (argument : Text) : Except Stop Token :=
  if argument.head? ≠ some 0x2D then .ok (.plain argument)
  else
    match grammar.switch? argument with
    | some switch => .ok (.switch argument switch argument none false)
    | none =>
        if argument.length = 1 then .ok (.plain argument)
        else
          let (name, value) := splitAtEquals argument
          match value.bind fun _ => grammar.switch? name with
          | some switch => .ok (.switch argument switch name value true)
          | none =>
              match grammar.readings argument with
              | [reading] => .ok reading
              | [] =>
                  if isNumber argument.tail || argument.contains 0x20 then .ok (.plain argument)
                  else .ok (.unknown argument)
              | several =>
                  .error (.wrong ("ambiguous option: " ++ argument ++ " could match "
                    ++ Text.join ", " (several.map readingName)))

/-- The tokens of arguments. Behind a separator all are plain. -/
def tokens (grammar : Grammar) : List Text → Except Stop (List Token)
  | [] => .ok []
  | argument :: rest =>
      if argument = Text.ofString "--" then .ok (.separator :: rest.map .plain)
      else do
        let first ← grammar.token argument
        return first :: (← tokens grammar rest)

end Grammar

namespace Parsed

/-- Nothing read. -/
def empty : Parsed := ⟨[], [], none, []⟩

/-- Leave an argument over. -/
def leave (parsed : Parsed) (argument : Text) : Parsed :=
  { parsed with leftOver := parsed.leftOver ++ [argument] }

/-- A switch without a value is given. -/
def mark (parsed : Parsed) (switch : Switch) : Except Stop Parsed :=
  match switch.kind with
  | .help => .error .help
  | _ => .ok { parsed with marks := parsed.marks ++ [switch.key] }

/-- A switch is given a value. -/
def assign (parsed : Parsed) (switch : Switch) (choices : List Text) (value : Text) :
    Except Stop Parsed :=
  if choices.isEmpty || choices.contains value then
    .ok { parsed with values := (switch.key, value) :: parsed.values }
  else .error (complain switch.title (notAChoice value choices))

end Parsed

/-- The complaint about a value of a switch that takes none. -/
def ignoredValue (switch : Switch) (value : Text) : Stop :=
  complain switch.title ("ignored explicit argument " ++ value.quoted)

/-- The short switches that share a hyphen: first one, then those of the letters behind it. An
unknown letter is left over with all letters behind it. -/
def shortGroup (grammar : Grammar) (given : List Switch) (switch : Switch) :
    Text → Except Stop (List Switch × Option Text)
  | [] => .ok (given ++ [switch], none)
  | letter :: rest =>
      if letter = 0x2D then .error (ignoredValue switch (letter :: rest))
      else
        match grammar.switch? [0x2D, letter] with
        | some next =>
            match rest with
            | 0x3D :: value => .error (ignoredValue next value)
            | _ => shortGroup grammar (given ++ [switch]) next rest
        | none => .ok (given ++ [switch], some (0x2D :: letter :: rest))

/-- Give a switch the value that came with it. -/
def Parsed.giveJoined (grammar : Grammar) (parsed : Parsed) (switch : Switch) (name value : Text)
    (joined : Bool) : Except Stop Parsed :=
  match switch.kind with
  | .value choices => parsed.assign switch choices value
  | _ =>
      if joined || value.isEmpty || name.take 2 = [0x2D, 0x2D] then
        .error (ignoredValue switch value)
      else do
        let (given, unknown) ← shortGroup grammar [] switch value
        let left := unknown.toList.foldl Parsed.leave parsed
        given.foldlM Parsed.mark left

/-- The argument of a plain token. -/
def Token.plain? : Token → Option Text
  | .plain argument => some argument
  | _ => none

/-- Go through tokens, after leaving out this many of them. The separator next to an operand belongs
to it. -/
def Grammar.run (grammar : Grammar) (parsed : Parsed) : Nat → List Token → Except Stop Parsed
  | _, [] => .ok parsed
  | skipped + 1, _ :: rest => grammar.run parsed skipped rest
  | 0, .unknown argument :: rest => grammar.run (parsed.leave argument) 0 rest
  | 0, .switch _ switch name (some value) joined :: rest => do
      grammar.run (← parsed.giveJoined grammar switch name value joined) 0 rest
  | 0, .switch _ switch _ none _ :: rest =>
      match switch.kind with
      | .value choices =>
          match rest.head?.bind Token.plain? with
          | some value => do grammar.run (← parsed.assign switch choices value) 1 rest
          | none => .error (complain switch.title "expected one argument")
      | _ => do grammar.run (← parsed.mark switch) 0 rest
  | 0, .plain argument :: rest =>
      if parsed.operand.isSome then grammar.run (parsed.leave argument) 0 rest
      else
        match grammar.operandKind with
        | .command _ =>
            .ok { parsed with operand := some (argument :: rest.map Token.argument) }
        | _ =>
            grammar.run { parsed with operand := some [argument] }
              (if rest.head? = some .separator then 1 else 0) rest
  | 0, .separator :: rest =>
      if parsed.operand.isSome then grammar.run (parsed.leave Token.separator.argument) 0 rest
      else
        match grammar.operandKind, rest.head?.bind Token.plain? with
        | .command _, some _ =>
            .ok { parsed with
              operand := some (Token.separator.argument :: rest.map Token.argument) }
        | .command _, none | .required, none =>
            grammar.run (parsed.leave Token.separator.argument) 0 rest
        | .optional, none => .ok parsed
        | _, some argument => grammar.run { parsed with operand := some [argument] } 1 rest

/-- The complaint about an operand that is missing. -/
def Grammar.missing (grammar : Grammar) : Stop :=
  .wrong ("the following arguments are required: " ++ grammar.operandName)

/-- Read arguments. An operand that is not optional must be there, and a command must be known. -/
def Grammar.parse (grammar : Grammar) (arguments : List Text) : Except Stop Parsed := do
  let parsed ← grammar.run .empty 0 (← grammar.tokens arguments)
  match grammar.operandKind, parsed.operand with
  | .optional, _ => return parsed
  | .required, some _ => return parsed
  | .command choices, some (name :: _) =>
      if choices.contains name then return parsed
      else throw (complain grammar.operandName (notAChoice name choices))
  | _, _ => throw grammar.missing

end CommandLine

end StoryCatalog
