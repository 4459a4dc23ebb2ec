import Retarget.Path

/-!
# The command line

What the words of a command line ask for. Options that belong to all commands may stand before the command or after
it; what stands after it counts. No option may be given twice in one place, except for rule files.

* `Invocation.parse`: what a command line asks for.
-/

namespace Retarget

/-- What is to be done. -/
inductive Command
  | file (input : Path) (output : Option Path) (diff : Bool)
  | folder (input : Path) (parallel backup : Bool)
  | rules
  | verifyRules (file : Path)
deriving Repr, BEq, DecidableEq

/-- Options that belong to all commands. -/
structure Options where
  rules : List Path := []
  format : Option String := none
  json : Bool := false
  verbose : Bool := false
  config : Option Path := none
  noConfig : Bool := false
deriving Repr, BEq, DecidableEq

/-- What a command line asks for. -/
inductive Invocation
  | run (options : Options) (command : Command)
  | version
  | help
  /-- The words make no command line. -/
  | misuse
deriving Repr, BEq, DecidableEq

namespace Invocation

/-- The name of an option, and whether a value follows it. -/
structure OptionName where
  name : String
  short : Option Char := none
  takesValue : Bool := false
  repeatable : Bool := false

/-- The options of all commands. -/
def globalOptions : List OptionName :=
  [⟨"rules", none, true, true⟩, ⟨"format", none, true, false⟩, ⟨"json", none, false, false⟩,
    ⟨"verbose", some 'v', false, false⟩, ⟨"config", none, true, false⟩, ⟨"no-config", none, false, false⟩]

/-- The names of the commands, with their own options and the least and the largest number of their arguments. -/
def commands : List (String × List OptionName × Nat × Nat) :=
  [("file", [⟨"diff", none, false, false⟩], 1, 2),
    ("folder", [⟨"parallel", none, false, false⟩, ⟨"backup", none, false, false⟩], 1, 1),
    ("rules", [], 0, 0), ("verify-rules", [], 1, 1)]

/-- Options as read, with their values, and arguments. -/
structure Words where
  options : List (String × Bytes) := []
  arguments : List Bytes := []
  /-- Have the arguments begun that are no options whatever they look like? -/
  closed : Bool := false

/-- Why reading stops. -/
inductive Stop
  | misuse
  | version
  | help

/-- Values of these options are paths, which must not be empty. -/
def isPathOption (name : String) : Bool := name == "rules" || name == "config"

/-- Note an option with its value. -/
def Words.add (w : Words) (o : OptionName) (value : Bytes) : Except Stop Words :=
  if !o.repeatable && (w.options.lookup o.name).isSome then .error .misuse
  else if isPathOption o.name && value.isEmpty then .error .misuse
  else if o.name == "format" && (Text.decode value).toOption.isNone then .error .misuse
  else .ok { w with options := w.options ++ [(o.name, value)] }

/-- Note the short options of a word, after its dash. -/
def Words.addShort (known : List OptionName) (top : Bool) : List Char → Words → Except Stop Words
  | [], w => .ok w
  | c :: rest, w =>
    if c == 'h' then .error .help
    else if c == 'V' && top then .error .version
    else
      match known.find? fun o => o.short == some c with
      | none => .error .misuse
      | some o => do Words.addShort known top rest (← w.add o [])

/-- The bytes of two dashes. -/
def dashes : Bytes := [45, 45]

/-- May a word be the value of an option before it? -/
def isValue (word : Bytes) : Bool := word.head? != some 45 || word == [45]

/-- The part of a word before its first sign of equality, if that part is text, and the part after it. -/
def splitBytes (word : Bytes) : Option String × Option Bytes :=
  let name := (Text.decode (word.takeWhile (· != 61))).toOption
  match word.dropWhile (· != 61) with
  | [] => (name, none)
  | _ :: value => (name, some value)

/-- Read one word that begins with a dash, and the value after it. Gives the words that are left. -/
def Words.addOption (known : List OptionName) (top : Bool) (w : Words) (word : Bytes) (rest : List Bytes) :
    Except Stop (Words × List Bytes) :=
  if word.take 2 == dashes then
    match splitBytes (word.drop 2) with
    | (none, _) => .error .misuse
    | (some name, value) =>
      if name == "help" && value.isNone then .error .help
      else if name == "version" && value.isNone && top then .error .version
      else
        match known.find? fun o => o.name == name with
        | none => .error .misuse
        | some o =>
          if o.takesValue then
            match value, rest with
            | some v, rest => do return (← w.add o v, rest)
            | none, v :: rest => if isValue v then do return (← w.add o v, rest) else .error .misuse
            | none, [] => .error .misuse
          else if value.isSome then .error .misuse
          else do return (← w.add o [], rest)
  else
    match Text.decode (word.drop 1) with
    | .error _ => .error .misuse
    | .ok s => do return (← Words.addShort known top s.toList w, rest)

/-- Read the words of a command after its name. -/
def readCommand (known : List OptionName) : Nat → Words → List Bytes → Except Stop Words
  | 0, w, _ => .ok w
  | _ + 1, w, [] => .ok w
  | fuel + 1, w, word :: rest =>
    if w.closed || isValue word then readCommand known fuel { w with arguments := w.arguments ++ [word] } rest
    else if word == dashes then readCommand known fuel { w with closed := true } rest
    else do
      let (w, rest) ← w.addOption known false word rest
      readCommand known fuel w rest

/-- Read the words before the command. Gives the name of the command and the words after it. -/
def readTop : Nat → Words → List Bytes → Except Stop (Words × String × List Bytes)
  | 0, _, _ => .error .misuse
  | _ + 1, _, [] => .error .misuse
  | fuel + 1, w, word :: rest =>
    if isValue word then
      match Text.decode word with
      | .error _ => .error .misuse
      | .ok name => .ok (w, name, rest)
    else if word == dashes then .error .misuse
    else do
      let (w, rest) ← w.addOption globalOptions true word rest
      readTop fuel w rest

/-- Does a place on the command line hold options that exclude each other? -/
def Words.clash (w : Words) : Bool := (w.options.lookup "json").isSome && (w.options.lookup "format").isSome

/-- The values of an option: those after the command, or else those before it. -/
def valuesOf (top inner : Words) (name : String) : List Bytes :=
  let values (w : Words) : List Bytes := (w.options.filter fun o => o.1 == name).map Prod.snd
  if (values inner).isEmpty then values top else values inner

/-- The options of all commands. -/
def optionsOf (top inner : Words) : Options where
  rules := (valuesOf top inner "rules").map Path.mk
  format := (valuesOf top inner "format").head?.map Text.decodeLossy
  json := !(valuesOf top inner "json").isEmpty
  verbose := !(valuesOf top inner "verbose").isEmpty
  config := (valuesOf top inner "config").head?.map Path.mk
  noConfig := !(valuesOf top inner "no-config").isEmpty

/-- The command of a name with its arguments. -/
def commandOf? (name : String) (w : Words) : Option Command :=
  let has (option : String) : Bool := (w.options.lookup option).isSome
  match name, w.arguments with
  | "file", [input] => some (.file ⟨input⟩ none (has "diff"))
  | "file", [input, output] => some (.file ⟨input⟩ (some ⟨output⟩) (has "diff"))
  | "folder", [input] => some (.folder ⟨input⟩ (has "parallel") (has "backup"))
  | "rules", [] => some .rules
  | "verify-rules", [file] => some (.verifyRules ⟨file⟩)
  | _, _ => none

/-- What `help` is asked for: at most the name of one command. -/
def readHelp (words : List Bytes) : Stop :=
  let known := "help" :: commands.map Prod.fst
  match words with
  | [] => .help
  | [word] => if ((Text.decode word).toOption.any known.contains) then .help else .misuse
  | _ => .misuse

/-- Read a command line, or say why reading stops. -/
def read (words : List Bytes) : Except Stop Invocation := do
  let (top, name, rest) ← readTop (words.length + 1) {} words
  if name == "help" then .error (readHelp rest)
  match commands.lookup name with
  | none => .error .misuse
  | some (own, least, most) =>
    let inner ← readCommand (globalOptions ++ own) (rest.length + 1) {} rest
    let count := inner.arguments.length
    if count < least || most < count || inner.arguments.any List.isEmpty || inner.clash || top.clash then
      .error .misuse
    else
      match commandOf? name inner with
      | none => .error .misuse
      | some command => .ok (.run (optionsOf top inner) command)

/-- What a command line asks for. -/
def parse (words : List Bytes) : Invocation :=
  match read words with
  | .ok i => i
  | .error .misuse => .misuse
  | .error .version => .version
  | .error .help => .help

end Invocation

end Retarget
