import NodePanel.Command.Run

/-!
The program `sakura-panel`: the world outside, read before the command runs and written after it.
There is no way to the panel from here, so every exchange fails as a connection does.
-/
namespace NodePanel.Program

attribute [local instance] Machine.usual

def platform : Text := "linux"

def usage : String :=
  "Usage: sakura-panel [-v] [--debug] COMMAND\n" ++
  "Commands: describe, node-info, users, rules, report-status, report-illegal,\n" ++
  "  doctor run, doctor setup"

def noShell : String := "This shell is not supported."

def questions : List String := ["Panel API host", "Node ID", "Node type", "Panel key"]

def console : Console where
  readsTags := true
  styleName name := Text.asciiLower (Text.strip name)
  readsParameters _ := false
  writes shown := !shown.plainLines.any fun line => line.any CodePoint.isSurrogate

def shown (t : Text) : String := t.toString?.getD ""

def variableNames : List String :=
  ["HOME", "XDG_CONFIG_HOME"]
    ++ Settings.names.map fun name => "SAKURA_" ++ (shown name).map Char.toUpper

def readEnvironment : IO Environment := do
  let values ← variableNames.mapM fun name => do
    return (← IO.getEnv name).map fun value => (Text.ofString name, Text.ofString value)
  return values.filterMap id

/-- Add a file of the world outside, if it can be read. -/
def addFile (files : Tree) (path : Path) : IO Tree := do
  try
    let octets ← IO.FS.readBinFile (shown path.toText)
    return files.place path (.file octets.toList)
  catch _ => return files

def readFiles (environment : Environment) (settingsFiles : List Text) : IO Tree := do
  let mut files := Tree.empty
  for path in settingsFiles do
    files ← addFile files (Path.ofText path)
  match Settings.load files environment settingsFiles [] with
  | .ok settings =>
    match settings.ruleListPath with
    | some path => addFile files path
    | none => return files
  | .error _ => return files

partial def readText (input : IO.FS.Stream) (before : Text) : IO Text := do
  let line ← input.getLine
  if line.isEmpty then return before
  else readText input (before ++ Text.ofString line)

def readTyped (i : Invocation) : IO (List Text) := do
  match i.purpose with
  | .ok (.run .setup) =>
    IO.println (String.intercalate ", " questions)
    return Text.inputLines (← readText (← IO.getStdin) [])
  | _ => return []

def writeFile (path : Path) (octets : Octets) : IO Unit := do
  IO.FS.createDirAll (shown path.parent.toText)
  IO.FS.writeBinFile (shown path.toText) (ByteArray.mk octets.toArray)

/-- Write the user's file of variables if the command has changed it. -/
def writeChanges (path : Path) (before after : Tree) : IO Unit :=
  match before.read path, after.read path with
  | .ok old, .ok new => if old = new then pure () else writeFile path new
  | .error _, .ok new => writeFile path new
  | _, .error _ => pure ()

def settingsErrorText : SettingsError → Text
  | .invalid faults => Text.join "\n" (faults.map fun f =>
    f.placeText ++ Text.ofString ": " ++ f.kind.code)
  | .file error => error.message
  | .home error => error.message

def errorText : CommandError → Text
  | .settings error => settingsErrorText error
  | .session (.wire error) => error.toSendError.message.getD []
  | .session (.file error) => error.message
  | .escape escape => escape.message
  | .home error => error.message
  | .file error => error.message
  | .console .markup => "A tag closes nothing."
  | .console .output => "The output has no room for a code point."

def isShown (i : Invocation) (record : LogRecord) : Bool :=
  record.level == .warning || i.level == .debug

def exitCode (ending : Ending) : IO UInt32 := do
  match ending with
  | .exit code => return UInt32.ofNat code
  | .failure error =>
    IO.eprintln (shown (errorText error))
    return 1

def run (i : Invocation) : IO UInt32 := do
  let environment ← readEnvironment
  let userFile? := (Location.envFile platform environment).toOption
  let settingsFiles := Text.ofString ".env" :: (userFile?.map Path.toText).toList
  let files ← readFiles environment settingsFiles
  let outcome : Outcome := .failure ⟨.connection, "no connection"⟩
  let (terminal, ending) := i.run {
    console, platform, environment, settingsFiles, files
    typed := ← readTyped i
    channel := Channel.ofOutcomes [outcome]
    printed := [] }
  for record in terminal.channel.logs do
    if isShown i record then IO.eprintln (shown record.line)
  for item in terminal.printed do
    for line in item.plainLines do IO.println (shown line)
  if let some path := userFile? then writeChanges path files terminal.files
  exitCode ending

end NodePanel.Program

def main (arguments : List String) : IO UInt32 := do
  let i := NodePanel.Invocation.ofLine (arguments.map NodePanel.Text.ofString)
  match i.purpose with
  | .ok (.run _) => NodePanel.Program.run i
  | .ok .help =>
    IO.println NodePanel.Program.usage
    return 0
  | .ok .completion =>
    IO.eprintln NodePanel.Program.noShell
    return 1
  | .error _ =>
    IO.eprintln NodePanel.Program.usage
    return 2
