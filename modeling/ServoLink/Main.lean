import ServoLink.Console.Program
import ServoLink.Json.Report

/-!
# Command line

Reads the arguments, the settings document and the operator's lines, and prints what the program
shows.  The drive that can be reached is the simulated one: without it no socket can be opened.
-/

namespace ServoLink
namespace Console

/-- The name of a level in records. -/
def levelTitle (level : LogLevel) : String := level.name.map Char.toUpper

def render (json : Bool) : Output → String
  | .line text => text
  | .record level message =>
      if json then
        Json.text (.obj [Json.entry "level" (levelTitle level),
          Json.entry "fields" (Json.obj [Json.entry "message" message])])
      else levelTitle level ++ " " ++ message
  | .snapshot snapshot => (toJson snapshot).pretty

def display (json : Bool) (threshold : LogLevel) (outputs : List Output) : IO Unit := do
  for output in outputs.filter (Program.isShown threshold) do
    IO.println (render json output)
  (← IO.getStdout).flush

/-- What there is to read at a path. -/
def documentAt (path : String) : IO DocumentFile := do
  try
    let bytes ← IO.FS.readBinFile path
    pure (.content bytes.toList)
  catch
    | .noFileOrDirectory .. => pure .missing
    | e => pure (.unreadable (toString e))

partial def serve (json : Bool) (threshold : LogLevel) (stage : Rehearsal.Stage) : IO Unit := do
  let line ← (← IO.getStdin).getLine
  unless line.isEmpty do
    let line := (line.dropEndWhile fun c => c == '\n' || c == '\r').toString
    match Program.step Rehearsal.Site.surroundings line stage with
    | none => pure ()
    | some (outputs, stage) =>
        display json threshold outputs
        serve json threshold stage

def start (arguments : Arguments) : IO UInt32 := do
  let document ← documentAt arguments.documentPath
  let shown := display arguments.json (Program.threshold arguments document)
  match Program.start arguments document arguments.simulate with
  | (outputs, none) => shown outputs; pure 1
  | (outputs, some stage) =>
      shown outputs
      serve arguments.json (Program.threshold arguments document) stage
      shown [Program.ended]
      pure 0

end Console
end ServoLink

def main (arguments : List String) : IO UInt32 := do
  match ServoLink.Console.Arguments.parse arguments with
  | .ok (.run a) => ServoLink.Console.start a
  | .ok _ =>
      let (code, outputs) :=
        ServoLink.Console.Program.commandLine arguments (fun _ => .missing) [] false
      ServoLink.Console.display false .trace outputs
      pure (.ofNat code)
  | .error e => IO.eprintln ("error: " ++ e.message); pure 2
