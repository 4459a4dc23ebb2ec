import Retarget.Backup
import Retarget.Command.Invocation
import Retarget.Command.Reporter
import Retarget.Convert.Converter
import Retarget.RuleFolder
import Retarget.Settings.Search

/-!
# Running a command

A command reads the settings, collects the rules, does its work and prints what came of it. Its result is an exit
code; an error ends it with code 1.

* `Command.execute`: run a command at a workbench,
* `Program.run`: run a command line on a disk.
-/

namespace Retarget

/-- What a command takes from its surroundings. -/
structure Surroundings where
  /-- Are texts coloured? -/
  colour : Bool := false
  /-- The time, as backups are named for it. -/
  time : String := ""

/-- A job that ends in an error: its message, and the messages of what is behind it. -/
abbrev Task := ExceptT (List String) Job

namespace Command

/-- Put a message in front of those of an error. -/
def inContext {α : Type} (message : String) (task : ExceptT LoadError Job α) : Task α :=
  Job.orFail task.run fun e => message :: e.chain

/-! ## Settings and rules -/

/-- The settings of a command, with the path of their file. -/
def settings (o : Options) : Task (Settings × Option Path) := do
  if o.noConfig then return ({}, none)
  else
    match o.config with
    | some p =>
      let s ← Job.orFail (Job.ask fun d => Settings.load? d p) SettingsError.chain
      return (s, some p)
    | none =>
      match ← Job.orFail (Job.ask fun d => Settings.search d d.currentPath) SettingsError.chain with
      | some (s, p) => return (s, some p)
      | none => return ({}, none)

/-- The format of the results: options come before settings. -/
def outputFormat (o : Options) (s : Settings) : Except (List String) OutputFormat :=
  if o.json then .ok .json
  else
    let name := (o.format.or s.format).getD "text"
    match OutputFormat.ofName? name with
    | some f => .ok f
    | none => .error [s!"Invalid output format '{name}'. Valid options: text, json"]

/-- The names of a list, each once. -/
def distinct : List String → List String
  | [] => []
  | n :: rest => n :: (distinct rest).filter (· != n)

/-- The rules of a file or of a directory. -/
def loadRules (p : Path) : Task (List LoadedRule) := do
  let context := "Failed to load rules from " ++ p.display
  if ← Job.look fun d => d.isDirectory p then inContext context (RuleFolder.load p)
  else inContext context (Job.orFail (Job.ask fun d => RuleFile.load? d p) id)

/-- Add the rules of a file or of a directory. -/
def addRules (reg : Registry) (p : Path) : Task Registry := do
  let loaded ← loadRules p
  Job.notice .info "loaded rule file" [("file", p.display), ("rules", toString loaded.length)]
  loaded.forM fun r =>
    Job.notice .debug "registering rule"
      [("rule", Text.quote r.rule.name), ("pattern", Text.quote r.rule.pattern.source)]
  return loaded.foldl (fun reg r => reg.add r.rule) reg

/-- The rules of a command: the built-in ones that are not disabled, then those of the settings, then those of the
options. -/
def registry (r : Reporter) (o : Options) (s : Settings) (settingsPath : Option Path) : Task Registry := do
  (distinct s.disabled).forM fun name => do
    if !Registry.builtin.names.contains name then
      Job.printErr (r.paint .yellow "Warning" ++
        s!": Unknown rule '{name}' in config. Use `appiumize rules` to see available rules.")
  let files := s.ruleFiles (settingsPath.bind Path.parent?) ++ o.rules
  files.foldlM addRules (Registry.builtin.without s.disabled)

/-! ## Commands -/

/-- The exit code of a command of which something may have failed. -/
def exitCode (failed : Bool) : Nat := if failed then 1 else 0

/-- List the active rules. -/
def listRules (r : Reporter) (reg : Registry) : Job Unit :=
  match r.format with
  | .text => do
    Job.print (r.paint .bold "Active rules (in application order):")
    reg.rules.forM fun rule => Job.print s!"  {r.paint .green rule.name} - {rule.description}"
  | .json =>
    let entry (rule : Rule) : JsonValue :=
      .object [("description", .string rule.description), ("name", .string rule.name)]
    Job.print (JsonValue.array (reg.rules.map entry)).pretty

/-- The text of a file, if it can be read and is one. -/
def textOf? (p : Path) : Job (Option String) := Job.ask fun d => (d.readText p).toOption

/-- Convert a file. -/
def convertFile (r : Reporter) (c : Converter) (input : Path) (output : Option Path) (diff : Bool) : Task Nat := do
  let output ← match output with
    | some p => pure p
    | none => Job.orFail (pure (outputBeside input)) ConvertError.chain
  r.print (r.paint .bold "Converting file" ++ s!": {input.display}")
  r.print (r.paint .bold "Output file" ++ s!": {output.display}")
  let before ← if diff then textOf? input else pure none
  let outcome ← Job.orFail (c.convertFile input output).run ConvertError.chain
  if diff && outcome.isConverted && r.isText then
    match before with
    | none => pure ()
    | some old =>
      let new ← Job.orFail (Job.ask fun d => d.readText output) fun c =>
        ["Failed to read " ++ output.display, c.message]
      r.showDiff input old new
  return exitCode (← r.showReport { files := [⟨input, outcome⟩] } output)

/-- Copy an output to a backup beside it. -/
def backUp (r : Reporter) (time : String) (output : Path) : Task Unit := do
  let folder := match output.parent? with
    | some p => p.join (Path.ofString Backup.folderName)
    | none => Path.ofString Backup.folderName
  let session ← Job.orFail (Backup.openSession folder time).run BackupError.chain
  if r.verbose then r.print (r.paint .bold "Backup session" ++ s!": {session.display}")
  let (copy, files) ← Job.orFail (Backup.copyTree session output).run BackupError.chain
  r.print (r.paint .bold "Backup" ++ s!": {files} file(s) saved to {copy.display}")

/-- Convert a tree. -/
def convertFolder (r : Reporter) (c : Converter) (time : String) (input : Path) (backup : Bool) : Task Nat := do
  let output ← Job.orFail (Job.ask fun d => treeOutput d input) ConvertError.chain
  if ← Job.look fun d => d.exists output then
    r.printErr (r.paint .yellow "Warning" ++ ": Output folder already exists and will be cleared: " ++ output.display)
    if backup && (← Job.look fun d => d.isDirectory input) then backUp r time output
  r.print (r.paint .bold "Converting folder" ++ s!": {input.display} -> {output.display}")
  let (output, report) ← Job.orFail (c.convertTree input).run ConvertError.chain
  return exitCode (← r.showReport report output)

/-! ## Tests of rules -/

/-- The lines that show the outcome of a test. -/
def testLines (r : Reporter) (t : TestResult) : List String :=
  if t.passed then ["  " ++ r.paint .green "OK" ++ s!" {t.input}"]
  else
    ["  " ++ r.paint .red "FAIL" ++ s!" {t.input}"] ++
    (t.expected.toList.map fun e => "    expected: " ++ e) ++ ["    actual:   " ++ t.actual] ++
    (t.error.toList.map fun e => "    " ++ r.paint .yellow e)

/-- The lines that show the tests of a rule. -/
def ruleLines (r : Reporter) (name : String) (tests : List TestResult) : List String :=
  r.paint .bold name :: if tests.isEmpty then ["  " ++ r.paint .dimmed "-" ++ " no test cases"] else tests.flatMap (testLines r)

/-- A text that may be missing, to programs. -/
def optionalText : Option String → JsonValue
  | none => .null
  | some s => .string s

/-- The outcome of a test, to programs. -/
def testDocument (t : TestResult) : JsonValue :=
  .object [("actual", .string t.actual), ("error", optionalText t.error), ("expected", optionalText t.expected),
    ("input", .string t.input), ("passed", .bool t.passed)]

/-- Run the tests of a rule file. -/
def testRules (r : Reporter) (file : Path) : Task Nat := do
  let context := "Failed to load rules from " ++ file.display
  let rules ← inContext context (Job.orFail (Job.ask fun d => RuleFile.load? d file) id)
  let results := rules.map fun rule => (rule.entry.name, rule.runTests)
  let tests := results.flatMap Prod.snd
  let passed := tests.countP TestResult.passed
  let failed := tests.length - passed
  match r.format with
  | .text =>
    (results.flatMap fun x => ruleLines r x.1 x.2).forM fun line => Job.print line
    Job.print ""
    Job.print (r.paint .heading "Summary")
    Job.print s!"  Rules: {rules.length}"
    Job.print s!"  Passed: {passed}"
    if failed > 0 then Job.print s!"  Failed: {failed}"
  | .json =>
    let entry (x : String × List TestResult) : JsonValue :=
      .object [("rule", .string x.1), ("tests", .array (x.2.map testDocument))]
    Job.print (JsonValue.object [("rules", .array (results.map entry)),
      ("summary", .object [("failed", .number failed), ("passed", .number passed),
        ("rules", .number rules.length)])]).pretty
  return exitCode (failed > 0)

/-! ## All commands -/

/-- Note the exclusions that are no globs. -/
def noteExclusions (set : ExclusionSet) : Job Unit :=
  set.invalid.forM fun (text, e) =>
    Job.notice .warn "invalid exclude glob" [("pattern", text), ("error", e.message)]

/-- Run a command and give its exit code. -/
def execute (env : Surroundings) (o : Options) (c : Command) : Task Nat := do
  let (s, settingsPath) ← settings o
  let format ← Job.orFail (pure (outputFormat o s)) id
  let r : Reporter := ⟨format, o.verbose, env.colour⟩
  if o.verbose then
    match settingsPath with
    | some p => r.print (r.paint .bold "Using config" ++ s!": {p.display}")
    | none => pure ()
  match c with
  | .verifyRules p => testRules r p
  | .rules => do
    listRules r (← registry r o s settingsPath)
    return 0
  | .file input output diff => do
    let reg ← registry r o s settingsPath
    convertFile r { registry := reg } input output diff
  | .folder input parallel backup => do
    let reg ← registry r o s settingsPath
    let exclude := ExclusionSet.ofTexts s.exclude
    noteExclusions exclude
    let options : TreeOptions := ⟨parallel || s.parallel, exclude⟩
    convertFolder r ⟨reg, options⟩ env.time input (backup || s.backup)

/-- Run a command; an error is printed and ends it with code 1. -/
def executeOrReport (env : Surroundings) (o : Options) (c : Command) : Job Nat := do
  match ← (execute env o c).run with
  | .ok code => return code
  | .error messages =>
    Job.printErr (Style.red.paint env.colour "Error" ++ ": " ++ String.intercalate ": " messages)
    return 1

end Command

namespace Program

/-- What a program leaves behind besides the disk. -/
structure Result where
  exit : Nat
  journal : List Utterance
  /-- Were the options asked for more notices? -/
  verbose : Bool := false

/-- The line that shows how the program is called. -/
def usage : String := "Usage: appiumize [OPTIONS] <COMMAND>\n"

/-- Run a command line on a disk. -/
def run (env : Surroundings) (words : List Bytes) (d : Disk) : Result × Disk :=
  match Invocation.parse words with
  | .misuse => (⟨2, [.err usage], false⟩, d)
  | .help => (⟨0, [.out usage], false⟩, d)
  | .version => (⟨0, [.out s!"appiumize {programVersion}\n"], false⟩, d)
  | .run o c =>
    let (code, bench) := (Command.executeOrReport env o c).run { disk := d }
    (⟨code, bench.journal, o.verbose⟩, bench.disk)

end Program

end Retarget
