import ServoLink.Console.Arguments
import ServoLink.Console.Command
import ServoLink.Rehearsal
import ServoLink.Settings.Document

/-!
# Program — a session led by an operator's lines

The program loads its settings, connects, takes commands line by line until it is told to quit or
the lines end, and disconnects.  What it shows is a list of outputs: plain lines, records with a
level, and snapshots of the session.  A record below the threshold is not shown.

* `Program.start`, `Program.step` — the beginning of a run, and one line of it;
* `Program.obey` — what a line does, without the cycles after it;
* `Program.run` — a run over all its lines;
* `Program.commandLine` — the whole program: its exit code and its outputs.

Between two lines the cyclic thread runs for `idleMs`.
-/

namespace ServoLink
namespace Console

/-- Something shown. -/
inductive Output where
  | line (text : String)
  | record (level : LogLevel) (message : String)
  | snapshot (snapshot : SessionSnapshot)
  deriving DecidableEq, Repr

/-- How long the program waits for a line before it looks again, in milliseconds. -/
def idleMs : Nat := 100

def version : String := "0.1.0"

namespace Program

/-- What a line has shown, and the session after it. -/
abbrev Step (ω : Type) := List Output × Session ω

/-- Records a failure of a line. -/
def warning (line : String) (message : String) : Output :=
  .record .warn (Text.trimmed line ++ ": " ++ message)

/-- Shows how an operation of the session went. -/
def report {ω α : Type} (line : String) (shown : α → List Output) :
    Except LinkError α × Session ω → Step ω
  | (.ok value, s) => (shown value, s)
  | (.error cause, s) => ([warning line cause.message], s)

/-- The type in which a register is written: that of the catalog, or a signed word. -/
def writtenType (address : Register.Address) : Register.DataType :=
  ((Register.descriptor? address).map (·.dataType)).getD .int32

section Lines

variable {ω : Type} (env : Surroundings ω)

def execute (line : String) (command : Command) (s : Session ω) : Step ω :=
  let order (c : Motion.OperatorCommand) := report line (fun _ => []) (s.command c)
  match command with
  | .enable => order .enable
  | .disable => order .disable
  | .home => order .home
  | .move mm => order (.moveTo (.ofMillimeters mm))
  | .stop => order .stop
  | .acknowledge => order .faultAcknowledge
  | .reset =>
      report line (fun h =>
        [.record .info ("Reconnected: cycle_time=" ++ toString h.cycleTimeUs.toNat ++ "µs")])
        (Rehearsal.started env (s.reset env))
  | .read address =>
      report line (fun value => [.line (address.text ++ " = " ++ value.text)])
        (s.readRegister env address .never)
  | .write address raw =>
      let type := writtenType address
      match Register.Value.ofInt? type raw with
      | none => ([warning line (toString raw ++ " does not fit " ++ type.name)], s)
      | some value =>
          report line (fun _ => [.line (address.text ++ " <- " ++ toString raw)])
            (s.writeRegister env address value .never)
  | .status => ([.snapshot s.snapshot], s)
  | .quit => ([], s)

/-- Does what a line says; nothing if it quits. -/
def obey (line : String) (s : Session ω) : Option (Step ω) :=
  match Command.parse line with
  | .ok (some .quit) => none
  | .ok none => some ([], s)
  | .ok (some command) => some (execute env line command s)
  | .error e => some ([.record .warn e.message], s)

/-- Lets the cyclic thread run until the next line. -/
def idle (s : Session ω) : Session ω :=
  match s.handshake with
  | some h => Rehearsal.cycles env (idleMs * 1000 / max h.cycleTimeUs.toNat 1) s
  | none => s

/-- Takes one line; nothing if it quits, which ends the run without another cycle. -/
def step (line : String) (s : Session ω) : Option (Step ω) :=
  (obey env line s).map fun (shown, s) => (shown, idle env s)

end Lines

/-- Takes lines until one of them quits. -/
def lines : List String → Rehearsal.Stage → List Output
  | [], _ => []
  | line :: rest, stage =>
      match step Rehearsal.Site.surroundings line stage with
      | none => []
      | some (shown, stage) => shown ++ lines rest stage

/-- The simulated drive that the settings call for. -/
def simulatedOptions (settings : Settings) : Drive.Options :=
  { checksum := settings.cyclic.checksum }

/-- The stage of a run: with simulation the drive is local and memory is not locked. -/
def stage (arguments : Arguments) (settings : Settings) (routed : Bool) : Rehearsal.Stage :=
  if arguments.simulate then
    let realtime := { settings.realtime with lockMemory := false }
    Rehearsal.new { settings with realtime } routed (some (simulatedOptions settings))
  else Rehearsal.new settings routed none

def started : Output := .record .info ("LinMot drive link v" ++ version ++ " starting...")

def connected (h : Handshake.Outcome) : Output :=
  .record .info ("Connected: firmware=" ++ h.firmware.text ++ ", device=" ++ h.deviceId
    ++ ", cycle_time=" ++ toString h.cycleTimeUs.toNat ++ "µs")

def ended : Output := .record .info "LinMot drive link shutdown complete"

/-- The output of a run that cannot go on. -/
def fatal (message : String) : Output := .record .error ("FATAL: " ++ message)

/-- Loads the settings and connects: what is shown of it, and the stage if it went well. -/
def start (arguments : Arguments) (document : DocumentFile) (routed : Bool) :
    List Output × Option Rehearsal.Stage :=
  match Settings.load arguments.overrides arguments.simulate document with
  | .error cause => ([started, fatal cause.message], none)
  | .ok settings =>
      match Rehearsal.connect (stage arguments settings routed) with
      | (.error cause, _) => ([started, fatal cause.message], none)
      | (.ok h, stage) => ([started, connected h], some stage)

/-- The least level of the records shown: as the document says, if it can be read. -/
def threshold (arguments : Arguments) (document : DocumentFile) : LogLevel :=
  if arguments.verbose then .debug
  else
    match Settings.ofFile document with
    | .ok settings => settings.shared.logLevel
    | .error _ => .info

def isShown (threshold : LogLevel) : Output → Bool
  | .record level _ => threshold.admits level
  | .line _ | .snapshot _ => true

/-- A run over all its lines: its exit code and its outputs in order.  `routed` tells whether
sockets can be opened. -/
def run (arguments : Arguments) (document : DocumentFile) (input : List String) (routed : Bool) :
    Nat × List Output :=
  let shown := List.filter (isShown (threshold arguments document))
  match start arguments document routed with
  | (outputs, none) => (1, shown outputs)
  | (outputs, some stage) => (0, shown (outputs ++ lines input stage ++ [ended]))

def usage : List String :=
  ["Usage: linmot_drive [OPTIONS]",
   "",
   "Options:",
   "      --config <CONFIG>            Settings document",
   "      --address <ADDRESS>          Address of the drive",
   "      --simulate                   Serve a simulated drive and connect to it",
   "      --cpu-core <CPU_CORE>        Core of the cyclic thread",
   "      --rt-priority <RT_PRIORITY>  Priority of the cyclic thread",
   "  -v, --verbose                    Show debug records",
   "      --json                       Write records as JSON",
   "  -h, --help                       Print help",
   "  -V, --version                    Print version"]

/-- The exit code and the outputs for a command line.  `document` gives what there is to read at a
path.  A command line that is wrong shows nothing here. -/
def commandLine (arguments : List String) (document : String → DocumentFile) (input : List String)
    (routed : Bool) : Nat × List Output :=
  match Arguments.parse arguments with
  | .error _ => (2, [])
  | .ok .help => (0, usage.map .line)
  | .ok .version => (0, [.line ("linmot_drive " ++ version)])
  | .ok (.run a) => run a (document a.documentPath) input routed

end Program

end Console
end ServoLink
