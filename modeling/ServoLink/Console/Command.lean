import ServoLink.Decimal.Reading
import ServoLink.Register.Address
import ServoLink.Text.Blank
import ServoLink.Text.Quoted

/-!
# Console commands — what an operator can type

A line is a verb and its arguments, separated by white space; words after the arguments are passed
over.  Numbers are decimal, or hexadecimal after `0x`, and have at most 64 bits.

* `Command.parse` — the command of a line; a blank line has none.
-/

namespace ServoLink
namespace Console

inductive Command where
  | enable
  | disable
  | home
  /-- To a position in millimetres. -/
  | move (mm : Float)
  | stop
  | acknowledge
  | reset
  | read (address : Register.Address)
  | write (address : Register.Address) (raw : Int)
  | status
  | quit
  deriving Repr, Inhabited

/-- Why a line is not a command. -/
inductive CommandError where
  | missing (verb argument : String)
  | invalidPosition (word : String)
  | invalidNumber (word : String)
  | indexOutOfRange (word : String)
  | subindexOutOfRange (word : String)
  | unknownVerb (word : String)
  deriving DecidableEq, Repr, Inhabited

def CommandError.message : CommandError → String
  | missing verb argument => verb ++ ": missing <" ++ argument ++ ">"
  | invalidPosition word => "move: invalid position " ++ Text.quoted word
  | invalidNumber word => "invalid number " ++ Text.quoted word
  | indexOutOfRange word => "index " ++ word ++ " out of range"
  | subindexOutOfRange word => "subindex " ++ word ++ " out of range"
  | unknownVerb word => "unknown command " ++ Text.quoted word

namespace Command

/-- A whole number of at most 64 bits, one of them for the sign. -/
def signed64? (base : Nat) (cs : List Char) : Option Int :=
  Text.integerIn? base Int64.minValue.toInt Int64.maxValue.toInt cs

/-- The number in a word. -/
def number? : List Char → Option Int
  | '0' :: 'x' :: digits | '0' :: 'X' :: digits => signed64? 16 digits
  | digits => signed64? 10 digits

def number (word : List Char) : Except CommandError Int :=
  match number? word with
  | some n => .ok n
  | none => .error (.invalidNumber (String.ofList word))

/-- The number in a word, if it lies below a bound. -/
def below (bound : Nat) (outside : String → CommandError) (word : List Char) :
    Except CommandError Nat := do
  let n ← number word
  if n < 0 || bound ≤ n then throw (outside (String.ofList word)) else pure n.toNat

/-- The address of an index and a subindex; the index is looked at first. -/
def address (index subindex : List Char) : Except CommandError Register.Address := do
  let i ← below UInt16.size .indexOutOfRange index
  let s ← below UInt8.size .subindexOutOfRange subindex
  pure ⟨.ofNat i, .ofNat s⟩

/-- The argument at a position. -/
def argument (verb name : String) (arguments : List (List Char)) (position : Nat) :
    Except CommandError (List Char) :=
  match arguments[position]? with
  | some word => .ok word
  | none => .error (.missing verb name)

/-- The command of a verb with its arguments. -/
def ofWords (verb : String) (arguments : List (List Char)) : Except CommandError Command := do
  let argument := argument verb
  match verb with
  | "enable" => pure enable
  | "disable" => pure disable
  | "home" => pure home
  | "move" =>
      let word ← argument "mm" arguments 0
      match Decimal.float? word with
      | some mm => pure (move mm)
      | none => throw (.invalidPosition (String.ofList word))
  | "stop" => pure stop
  | "ack" => pure acknowledge
  | "reset" => pure reset
  | "read" =>
      let index ← argument "index" arguments 0
      let subindex ← argument "sub" arguments 1
      pure (read (← address index subindex))
  | "write" =>
      let index ← argument "index" arguments 0
      let subindex ← argument "sub" arguments 1
      let a ← address index subindex
      pure (write a (← number (← argument "value" arguments 2)))
  | "status" => pure status
  | "quit" | "exit" => pure quit
  | verb => throw (.unknownVerb verb)

/-- The command of a line; a blank line has none. -/
def parse (line : String) : Except CommandError (Option Command) :=
  match Text.words line with
  | [] => .ok none
  | verb :: arguments => some <$> ofWords (String.ofList verb) arguments

end Command

end Console
end ServoLink
