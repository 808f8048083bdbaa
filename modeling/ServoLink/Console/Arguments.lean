import ServoLink.Settings.Basic
import ServoLink.Text.Whole

/-!
# Program arguments — options on the command line

An option with a value takes the next argument, which must not start with a hyphen unless it is a
hyphen alone, or what follows an equals sign.  Letters of switches can be joined after one hyphen.
No option may be given twice, and nothing else may be given.  Arguments are looked at from left to
right; the first that is wrong, or that asks for help or for the version, decides.
-/

namespace ServoLink
namespace Console

structure Arguments where
  /-- Where the settings document is; none for the usual place. -/
  document : Option String := none
  address : Option String := none
  /-- Serve a simulated drive and connect to it. -/
  simulate : Bool := false
  cpuCore : Option UInt64 := none
  priority : Option Int32 := none
  /-- Show records of the debug level. -/
  verbose : Bool := false
  /-- Write records as JSON. -/
  json : Bool := false
  deriving DecidableEq, Repr, Inhabited

/-- What a command line asks for. -/
inductive Request where
  | run (arguments : Arguments)
  | help
  | version
  deriving DecidableEq, Repr, Inhabited

/-- Why a command line is wrong. -/
inductive UsageError where
  | unexpected (argument : String)
  | repeated (option : String)
  | missingValue (option : String)
  | invalidValue (option value : String)
  /-- A switch was given a value. -/
  | unwantedValue (option : String)
  deriving DecidableEq, Repr, Inhabited

def UsageError.message : UsageError → String
  | unexpected argument => "unexpected argument '" ++ argument ++ "' found"
  | repeated option => "the argument '--" ++ option ++ "' cannot be used multiple times"
  | missingValue option => "a value is required for '--" ++ option ++ "' but none was supplied"
  | invalidValue option value => "invalid value '" ++ value ++ "' for '--" ++ option ++ "'"
  | unwantedValue option => "unexpected value for '--" ++ option ++ "' found"

namespace Arguments

def usualDocument : String := "config/linmot.toml"

/-- Sets an option that has no value yet. -/
def once {α : Type} (option : String) (present : Option α) (value : Except UsageError α) :
    Except UsageError (Option α) :=
  match present with
  | some _ => .error (.repeated option)
  | none => some <$> value

/-- Sets a switch that is not set yet. -/
def switch (option : String) (present : Bool) : Except UsageError Bool :=
  if present then .error (.repeated option) else .ok true

def isValued (option : String) : Bool :=
  option == "config" || option == "address" || option == "cpu-core" || option == "rt-priority"

/-- What the value of an option means, if it means anything. -/
def meaning {α : Type} (option value : String) : Option α → Except UsageError α
  | some a => .ok a
  | none => .error (.invalidValue option value)

/-- Takes an option with its value. -/
def setValue (option value : String) (a : Arguments) : Except UsageError Arguments := do
  match option with
  | "config" =>
      let path := if value.isEmpty then .error (.missingValue option) else .ok value
      pure { a with document := ← once option a.document path }
  | "address" => pure { a with address := ← once option a.address (.ok value) }
  | "cpu-core" =>
      let core := (Text.natural? 10 value.toList).filter (· < UInt64.size)
      pure { a with
        cpuCore := ← once option a.cpuCore (UInt64.ofNat <$> meaning option value core) }
  | _ =>
      let priority := Text.integerIn? 10 Int32.minValue.toInt Int32.maxValue.toInt value.toList
      pure { a with
        priority := ← once option a.priority (Int32.ofInt <$> meaning option value priority) }

/-- Takes a switch, or what ends the arguments. -/
def setSwitch (option : String) (a : Arguments) : Except UsageError (Arguments ⊕ Request) := do
  match option with
  | "simulate" => pure (.inl { a with simulate := ← switch option a.simulate })
  | "verbose" => pure (.inl { a with verbose := ← switch option a.verbose })
  | "json" => pure (.inl { a with json := ← switch option a.json })
  | "help" => pure (.inr .help)
  | "version" => pure (.inr .version)
  | _ => throw (.unexpected ("--" ++ option))

/-- The switch of a letter. -/
def ofLetter? : Char → Option String
  | 'v' => some "verbose"
  | 'h' => some "help"
  | 'V' => some "version"
  | _ => none

/-- Takes letters of switches joined after one hyphen. -/
def setLetters : List Char → Arguments → Except UsageError (Arguments ⊕ Request)
  | [], a => pure (.inl a)
  | c :: rest, a => do
      match ofLetter? c with
      | none => throw (.unexpected (String.ofList ['-', c]))
      | some option =>
          -- A switch takes no value, so nothing may be assigned to it.
          if rest.head? = some '=' then throw (.unwantedValue option)
          match ← setSwitch option a with
          | .inl a => setLetters rest a
          | .inr request => pure (.inr request)

/-- The argument that follows can be a value: it does not look like an option. -/
def canBeValue (argument : String) : Bool := !argument.startsWith "-" || argument == "-"

/-- Goes on with the arguments, unless the request is settled. -/
def proceed (next : Arguments → Except UsageError Request) :
    Except UsageError (Arguments ⊕ Request) → Except UsageError Request
  | .error e => .error e
  | .ok (.inr request) => .ok request
  | .ok (.inl a) => next a

/-- The name of a long option, and the value after an equals sign. -/
def splitOption (cs : List Char) : String × Option String :=
  let name := String.ofList (cs.takeWhile (· != '='))
  match cs.dropWhile (· != '=') with
  | [] => (name, none)
  | _ :: value => (name, some (String.ofList value))

def parseFrom : List String → Arguments → Except UsageError Request
  | [], a => .ok (.run a)
  | argument :: rest, a =>
      match argument.toList with
      | ['-', '-'] =>
          match rest with
          -- After the end of the options only other arguments could come.
          | [] => .ok (.run a)
          | extra :: _ => .error (.unexpected extra)
      | '-' :: '-' :: cs =>
          match splitOption cs with
          | (option, some value) =>
              if isValued option then do parseFrom rest (← a.setValue option value)
              else
                match a.setSwitch option with
                | .error e => .error e
                | .ok _ => .error (.unwantedValue option)
          | (option, none) =>
              if isValued option then
                match rest with
                | value :: rest =>
                    if canBeValue value then do parseFrom rest (← a.setValue option value)
                    else .error (.missingValue option)
                | [] => .error (.missingValue option)
              else proceed (parseFrom rest) (a.setSwitch option)
      | '-' :: c :: cs => proceed (parseFrom rest) (setLetters (c :: cs) a)
      | _ => .error (.unexpected argument)

/-- What the arguments of the program ask for. -/
def parse (arguments : List String) : Except UsageError Request := parseFrom arguments {}

/-- Where the settings document is. -/
def documentPath (a : Arguments) : String := a.document.getD usualDocument

/-- The settings that the arguments override. -/
def overrides (a : Arguments) : Overrides := ⟨a.address, a.cpuCore, a.priority⟩

end Arguments

end Console
end ServoLink
