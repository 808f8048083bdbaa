import ServoLink.Toml.Number
import ServoLink.Toml.Text

/-!
# TOML documents — lines of assignments and headers

A document is read line by line into one table.  A header moves the place where the following
assignments go.  Arrays and tables between braces may extend over several lines, with comments among
their entries and a comma after the last one.

* `Document.parse` — the table of a document, or its first problem with the number of the line.

Brackets nest at most `maxDepth` deep, which is what the recursion over values descends on.
-/

namespace ServoLink
namespace Toml

/-! ## Values -/

/-- A character that ends a word. -/
def endsWord (c : Char) : Bool :=
  isSpace c || c == '\r' || c == '\n' || c == '#' || c == ',' || c == ']' || c == '\x7d'

/-- Takes a word.  A date and a time of day may have one blank between them. -/
def takeWord (cs : List Char) : List Char × List Char :=
  let word := cs.takeWhile (!endsWord ·)
  let rest := cs.dropWhile (!endsWord ·)
  match rest with
  | ' ' :: d :: after =>
      -- A blank after a date joins it to a time, but only if a digit follows.
      if date? word == some [] && (Text.digit? 10 d).isSome then
        (word ++ ' ' :: (d :: after).takeWhile (!endsWord ·), (d :: after).dropWhile (!endsWord ·))
      else (word, rest)
  | _ => (word, rest)

/-- A string or a word. -/
def scalar : Scanner Value
  | '"' :: '"' :: '"' :: rest => (Value.string <$> basicLines.scan) rest
  | '\'' :: '\'' :: '\'' :: rest => (Value.string <$> literalLines.scan) rest
  | '"' :: rest => (Value.string <$> basic.scan) rest
  | '\'' :: rest => (Value.string <$> literal.scan) rest
  | cs =>
      let (word, rest) := takeWord cs
      match word? word with
      | some value => .ok value rest
      | none => .error .invalidValue cs

/-- What stands between brackets, up to the closing one: entries with a comma after each, which the
last may lack; at most so many. -/
def listed {α : Type} (close : Char) (entry : Scanner α) : (most : Nat) → Scanner (List α)
  | 0 => throw (.expected "a closing bracket")
  | most + 1 => do
      gap
      if (← Scanner.next?) = some close then
        Scanner.advance
        pure []
      else
        let first ← entry
        gap
        if (← Scanner.next?) = some ',' then
          Scanner.advance
          return first :: (← listed close entry most)
        else
          Scanner.expect close "a comma or a closing bracket"
          pure [first]

/-- The rest of an array after its opening bracket. -/
def array (value : Scanner Value) : Scanner Value := fun cs =>
  (Value.array <$> listed ']' value cs.length) cs

/-- A key, an equals sign, and a value; `between` is what may stand on either side of the sign. -/
def assignment (between : Scanner Unit) (value : Scanner Value) : Scanner (Key × Value) := do
  let k ← key
  between
  Scanner.expect '=' "an equals sign"
  between
  return (k, ← value)

/-- The rest of a table after its opening brace. -/
def inlineTable (value : Scanner Value) : Scanner Value := fun cs =>
  (do
    let entries ← listed '\x7d' (assignment gap value) cs.length
    let table ← Scanner.lift (Table.ofAssignments entries ⟨.inline, []⟩)
    pure table.value) cs

/-- A value with so many levels of brackets. -/
def valueWithin : (levels : Nat) → Scanner Value
  | 0 => fun cs =>
      match cs with
      | '[' :: _ | '\x7b' :: _ => .error .tooDeep cs
      | _ => scalar cs
  | levels + 1 => fun cs =>
      match cs with
      | '[' :: rest => array (valueWithin levels) rest
      | '\x7b' :: rest => inlineTable (valueWithin levels) rest
      | _ => scalar cs

/-! ## Lines -/

/-- A document read so far: its table, and the tables its assignments go to. -/
structure Document where
  root : Table
  place : List String
  deriving Repr

namespace Document

def empty : Document := ⟨⟨.header, []⟩, []⟩

def assign (key : Key) (value : Value) (d : Document) : Except Problem Document := do
  pure { d with root := ← d.root.modifyAt false (·.assign key value) d.place }

def openTable (key : Key) (d : Document) : Except Problem Document := do
  pure ⟨← d.root.openTable key, key.path ++ [key.name]⟩

def openElement (key : Key) (d : Document) : Except Problem Document := do
  pure ⟨← d.root.openElement key, key.path ++ [key.name]⟩

/-- The key of a header, up to the first closing bracket. -/
def header : Scanner Key := do
  spaces
  let k ← key
  spaces
  Scanner.expect ']' "a closing bracket"
  pure k

/-- Takes one line, with the lines a value extends over. -/
def line (d : Document) : Scanner Document := fun cs =>
  match cs.dropWhile isSpace with
  | '[' :: '[' :: rest =>
      (do
        let k ← header
        Scanner.expect ']' "a closing bracket"
        lineEnd
        Scanner.lift (d.openElement k)) rest
  | '[' :: rest =>
      (do
        let k ← header
        lineEnd
        Scanner.lift (d.openTable k)) rest
  | c :: rest =>
      if c = '#' || c = '\r' || c = '\n' then (do lineEnd; pure d) (c :: rest)
      else
        (do
          let (k, value) ← assignment spaces (valueWithin maxDepth)
          lineEnd
          Scanner.lift (d.assign k value)) (c :: rest)
  | [] => .ok d []

/-- Takes at most so many lines, up to the end. -/
def lines : (most : Nat) → Document → Scanner Document
  | 0, d => pure d
  | most + 1, d => do
      if (← Scanner.next?).isNone then pure d
      else lines most (← d.line)

/-- A problem with the number of the line where it was found. -/
structure ParseError where
  line : Nat
  problem : Problem
  deriving DecidableEq, Repr

def ParseError.message (e : ParseError) : String :=
  "line " ++ toString e.line ++ ": " ++ e.problem.message

/-- A mark of the byte order at the start is left out. -/
def dropByteOrderMark : List Char → List Char
  | '\uFEFF' :: rest => rest
  | cs => cs

/-- The table of a document.  Each line takes at least one character, so there are no more lines
than characters. -/
def parse (text : String) : Except ParseError Entries :=
  let cs := dropByteOrderMark text.toList
  match lines cs.length empty cs with
  | .ok d _ => .ok d.root.entries
  | .error problem rest => .error ⟨1 + cs.count '\n' - rest.count '\n', problem⟩

end Document
end Toml
end ServoLink
