import DirectChat.Config.Basic
import DirectChat.Config.FileTree
import DirectChat.Json.Printer
/-!
# The command

Shows the configuration that a server of this command line, environment and file starts with, or a
template of a configuration file. Whatever is decided is decided by `CommandLine.parse` and
`Config.load`.
-/

namespace DirectChat

/-- How the command is used. -/
def usage : String := String.join <|
  ["Usage: duet-server [OPTIONS]", "", "Options:"].map (fun line => line ++ "\n")
    ++ ConfigKey.all.map (fun k =>
      "      --" ++ k.flag ++ (if k.isSwitch then "" else " <" ++ k.name.toUpper ++ ">") ++ "\n")
    ++ ["  -h, --help\n", "  -V, --version\n"]

/-- What is said when a command line is not taken. -/
def CommandLineError.notice : CommandLineError → String
  | .unknownWord => "error: unexpected argument"
  | .missingValue => "error: a value is required"
  | .badValue => "error: invalid value"
  | .repeated => "error: an argument cannot be used twice"
  | .unwantedValue => "error: unexpected value"
  | .help => usage
  | .version => "duet-server 0.1.0"

/-- The variables of an environment whose parts end with a zero character. -/
def Environment.ofBlock (block : List Char) : Environment :=
  (splitOnChar '\x00' block).filterMap fun cs =>
    match cs.span (· ≠ '=') with
    | (name, '=' :: value) => some (String.ofList name, String.ofList value)
    | _ => none

/-- The text of a file that can be read. -/
def readable? (path : String) : IO (Option String) := do
  try return some (← IO.FS.readFile path) catch _ => return none

/-- The text of the configuration file, from the working directory or one above it. -/
def configFile? (path : String) : IO (Option String) := do
  if path.startsWith "/" then readable? path
  else
    let here := (FileTree.names (← IO.currentDir).toString).filter fun n => n ≠ ""
    for way in FileTree.upwards here do
      if let some text ← readable? ("/" ++ "/".intercalate (way ++ [path])) then return some text
    return none

end DirectChat

open DirectChat in
/-- Shows the configuration, or the template. -/
def main (words : List String) : IO UInt32 := do
  let env := Environment.ofBlock ((← readable? "/proc/self/environ").getD "").toList
  match CommandLine.parse words env with
  | .error e =>
    if e = .help ∨ e = .version then
      IO.println e.notice
      return 0
    else
      IO.eprintln e.notice
      return 2
  | .ok c =>
    match Config.load c env (← configFile? c.configPath) with
    | .error e =>
      IO.eprintln ("error: " ++ e.message ++ String.join
        (e.key?.toList.map fun k => " for key \"" ++ k.name ++ "\""))
      return 1
    | .ok config =>
      if config.generateConfig then IO.print Config.template
      else IO.println config.toJson.render
      return 0
