import ServoLink.Text.Whole
import ServoLink.Toml.Value

/-!
# TOML text — white space, comments and strings

A `Scanner` takes something off the front of a document or says what is wrong with it there.

There are four kinds of strings: between quotes or apostrophes, on one line or on several.  A
string is first cut at its closing mark, then its inner text is checked and its escapes are
replaced, character by character.
-/

namespace ServoLink
namespace Toml

/-- Takes a value off the front of a text; a failure keeps the text from where it failed. -/
abbrev Scanner (α : Type) := EStateM Problem (List Char) α

namespace Scanner

/-- The next character, not taken. -/
def next? : Scanner (Option Char) := fun cs => .ok cs.head? cs

/-- Takes one character, whatever it is. -/
def advance : Scanner Unit := fun cs => .ok () cs.tail

/-- Takes the given character. -/
def expect (c : Char) (what : String) : Scanner Unit
  | [] => .error (.expected what) []
  | d :: rest => if d = c then .ok () rest else .error (.expected what) (d :: rest)

/-- Succeeds or fails with a problem at the present place. -/
def lift {α : Type} : Except Problem α → Scanner α
  | .ok a => pure a
  | .error problem => throw problem

end Scanner

/-! ## White space and comments -/

def isSpace (c : Char) : Bool := c == ' ' || c == '\t'

/-- A character allowed in comments and strings: no control character but the tab. -/
def isPlain (c : Char) : Bool := c == '\t' || (0x20 ≤ c.toNat && c != '\x7f')

def spaces : Scanner Unit := fun cs => .ok () (cs.dropWhile isSpace)

/-- Takes white space, line ends and comments. -/
def gapFrom : (inComment : Bool) → List Char → EStateM.Result Problem (List Char) Unit
  | _, [] => .ok () []
  | _, '\n' :: rest => gapFrom false rest
  | _, '\r' :: '\n' :: rest => gapFrom false rest
  | true, c :: rest => if isPlain c then gapFrom true rest else .error .invalidComment (c :: rest)
  | false, c :: rest =>
      if isSpace c then gapFrom false rest
      else if c = '#' then gapFrom true rest
      else .ok () (c :: rest)

def gap : Scanner Unit := gapFrom false

/-- Takes the rest of a line, on which only white space and a comment may stand. -/
def lineEndFrom : (inComment : Bool) → List Char → EStateM.Result Problem (List Char) Unit
  | _, [] => .ok () []
  | _, '\n' :: rest => .ok () rest
  | _, '\r' :: '\n' :: rest => .ok () rest
  | true, c :: rest =>
      if isPlain c then lineEndFrom true rest else .error .invalidComment (c :: rest)
  | false, c :: rest =>
      if isSpace c then lineEndFrom false rest
      else if c = '#' then lineEndFrom true rest
      else .error (.expected "the end of the line") (c :: rest)

def lineEnd : Scanner Unit := lineEndFrom false

/-! ## Inner text of strings -/

/-- A kind of string. -/
structure StringKind where
  mark : Char
  /-- A backslash starts an escape. -/
  escapes : Bool
  multiline : Bool
  deriving DecidableEq, Repr

/-- Where the reading of an inner text stands. -/
inductive Mode where
  | plain
  /-- After a carriage return, which only a line feed may follow. -/
  | carriage
  /-- After a backslash. -/
  | escape
  /-- Inside a code point with so many digits to come. -/
  | codePoint (left value : Nat)
  /-- After a backslash and white space: a line end has to come. -/
  | beforeGap
  /-- In the white space after an escaped line end, which is left out. -/
  | inGap
  /-- After a carriage return in that white space. -/
  | gapCarriage
  deriving DecidableEq, Repr

namespace StringKind

variable (k : StringKind)

def plainStep (c : Char) : Option (Mode × List Char) :=
  if c = '\\' && k.escapes then some (.escape, [])
  else if c = '\n' then if k.multiline then some (.plain, [c]) else none
  else if c = '\r' then if k.multiline then some (.carriage, [c]) else none
  else if isPlain c then some (.plain, [c])
  else none

/-- White space between an escaped line end and the next text. -/
def gapStep? (c : Char) : Option Mode :=
  if isSpace c || c = '\n' then some .inGap
  else if c = '\r' then some .gapCarriage
  else none

def escapeStep (c : Char) : Option (Mode × List Char) :=
  match c with
  | 'b' => some (.plain, ['\x08'])
  | 't' => some (.plain, ['\t'])
  | 'n' => some (.plain, ['\n'])
  | 'f' => some (.plain, ['\x0c'])
  | 'e' => some (.plain, ['\x1b'])
  | 'r' => some (.plain, ['\r'])
  | '"' => some (.plain, ['"'])
  | '\\' => some (.plain, ['\\'])
  | 'x' => some (.codePoint 2 0, [])
  | 'u' => some (.codePoint 4 0, [])
  | 'U' => some (.codePoint 8 0, [])
  | c =>
      if !k.multiline then none
      else if isSpace c then some (.beforeGap, [])
      else (gapStep? c).map (·, [])

/-- One more digit of a code point; at the last one it has to be that of a character. -/
def digitStep (left value : Nat) (c : Char) : Option (Mode × List Char) := do
  let d ← Text.digit? 16 c
  let value := value * 16 + d
  if 1 < left then some (.codePoint (left - 1) value, [])
  else if value.isValidChar then some (.plain, [.ofNat value])
  else none

/-- Reads one character of the inner text: what it adds to the string. -/
def step (mode : Mode) (c : Char) : Option (Mode × List Char) :=
  match mode with
  | .plain => k.plainStep c
  | .carriage => if c = '\n' then some (.plain, [c]) else none
  | .escape => k.escapeStep c
  | .codePoint left value => digitStep left value c
  | .beforeGap => if isSpace c then some (.beforeGap, []) else (gapStep? c).map (·, [])
  | .inGap =>
      match gapStep? c with
      | some mode => some (mode, [])
      | none => k.plainStep c
  | .gapCarriage => if c = '\n' then some (.inGap, []) else none

/-- The string of an inner text, from a mode on. -/
def decodeFrom : Mode → List Char → Option (List Char)
  | mode, [] => if mode = .plain || mode = .inGap then some [] else none
  | mode, c :: rest => do
      let (mode, added) ← k.step mode c
      (added ++ ·) <$> decodeFrom mode rest

def decode (inner : List Char) : Option String := String.ofList <$> k.decodeFrom .plain inner

/-! ## Strings -/

/-- Cuts at the closing mark of a string on one line: the inner text, and what follows the mark. -/
def cut : List Char → Option (List Char × List Char)
  | [] => none
  | [c] => if c = k.mark then some ([], []) else none
  | c :: d :: rest =>
      if c = k.mark then some ([], d :: rest)
      else if c = '\\' && k.escapes then
        -- An escaped mark does not close the string.
        (cut rest).map fun (inner, after) => (c :: d :: inner, after)
      else (cut (d :: rest)).map fun (inner, after) => (c :: inner, after)

/-- Cuts at the three closing marks of a string on several lines.  Up to two marks more belong to
the string. -/
def cutLines : List Char → Option (List Char × List Char)
  | a :: b :: c :: rest =>
      if a = k.mark && b = k.mark && c = k.mark then
        let more := (rest.take 2).takeWhile (· == k.mark)
        some (more, rest.drop more.length)
      else if a = '\\' && k.escapes then
        (cutLines (c :: rest)).map fun (inner, after) => (a :: b :: inner, after)
      else (cutLines (b :: c :: rest)).map fun (inner, after) => (a :: inner, after)
  | _ => none

/-- A line end right after the opening marks is left out. -/
def dropFirstLineEnd : List Char → List Char
  | '\n' :: rest => rest
  | '\r' :: '\n' :: rest => rest
  | cs => cs

/-- Takes the rest of a string whose opening marks have been taken. -/
def scan : Scanner String := fun cs =>
  match if k.multiline then k.cutLines (dropFirstLineEnd cs) else k.cut cs with
  | none => .error .unterminatedString cs
  | some (inner, rest) =>
      match k.decode inner with
      | some text => .ok text rest
      | none => .error .invalidString cs

end StringKind

def basic : StringKind := ⟨'"', true, false⟩
def literal : StringKind := ⟨'\'', false, false⟩
def basicLines : StringKind := ⟨'"', true, true⟩
def literalLines : StringKind := ⟨'\'', false, true⟩

/-! ## Keys -/

/-- A character of a key without quotes. -/
def isKeyChar (c : Char) : Bool := c.isAlphanum || c == '_' || c == '-'

/-- One part of a key. -/
def keyPart : Scanner String
  | '"' :: rest => basic.scan rest
  | '\'' :: rest => literal.scan rest
  | cs =>
      let name := cs.takeWhile isKeyChar
      if name.isEmpty then .error .invalidKey cs
      else .ok (String.ofList name) (cs.dropWhile isKeyChar)

/-- The rest of a key after its part `first`: further parts, at most so many, each after a point. -/
def keyRest (first : String) (most : Nat) : Scanner Key := do
  spaces
  if (← Scanner.next?) = some '.' then
    match most with
    | 0 => throw .tooDeep
    | most + 1 =>
        Scanner.advance
        spaces
        let key ← keyRest (← keyPart) most
        pure ⟨first :: key.path, key.name⟩
  else pure ⟨[], first⟩

/-- A key: its parts between points, at most `maxDepth`, with white space around the points. -/
def key : Scanner Key := do keyRest (← keyPart) (maxDepth - 1)

end Toml
end ServoLink
