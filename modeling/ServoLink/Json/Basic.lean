import ServoLink.Text.Whole

/-!
# JSON — values and their text

Numbers are integers: everything else that a link reports is text, truth values and structure.
A field that an object lacks reads as `null`.

* `Json.text` — the value on one line, without blanks;
* `Json.pretty` — the value over several lines, two blanks for each level;
* `ToJson`, `FromJson` — the types that have a JSON form.
-/

namespace ServoLink

inductive Json where
  | null
  | bool (value : Bool)
  | int (value : Int)
  | str (text : String)
  | arr (items : List Json)
  /-- Fields in the order in which they are written. -/
  | obj (fields : List (String × Json))
  deriving Repr, Inhabited

namespace Json

/-! ## Text -/

/-- A character inside quotes: control characters, the quote and the backslash are escaped. -/
def escape (c : Char) : List Char :=
  match c with
  | '"' => ['\\', '"']
  | '\\' => ['\\', '\\']
  | '\n' => ['\\', 'n']
  | '\r' => ['\\', 'r']
  | '\t' => ['\\', 't']
  | '\x08' => ['\\', 'b']
  | '\x0c' => ['\\', 'f']
  | c =>
      if c.toNat < 0x20 then
        let digits := Nat.toDigits 16 c.toNat
        ['\\', 'u'] ++ List.replicate (4 - digits.length) '0' ++ digits
      else [c]

def quoted (text : String) : String :=
  String.ofList ('"' :: text.toList.flatMap escape ++ ['"'])

/-- Items between brackets, on one line. -/
def enclosed (left right : String) (items : List String) : String :=
  left ++ ",".intercalate items ++ right

mutual

/-- The value on one line. -/
def text : Json → String
  | null => "null"
  | bool b => if b then "true" else "false"
  | int n => toString n
  | str s => quoted s
  | arr items => enclosed "[" "]" (textOfItems items)
  | obj fields => enclosed "\x7b" "\x7d" (textOfFields fields)

def textOfItems : List Json → List String
  | [] => []
  | item :: rest => item.text :: textOfItems rest

def textOfFields : List (String × Json) → List String
  | [] => []
  | (key, value) :: rest => (quoted key ++ ":" ++ value.text) :: textOfFields rest

end

/-- A new line at a level. -/
def newLine (level : Nat) : String := String.ofList ('\n' :: List.replicate (2 * level) ' ')

/-- Items between brackets, each on a line of its own one level further in. -/
def block (level : Nat) (left right : String) (items : List String) : String :=
  if items.isEmpty then left ++ right
  else
    left ++ newLine (level + 1) ++ ("," ++ newLine (level + 1)).intercalate items
      ++ newLine level ++ right

mutual

/-- The value over several lines, starting at a level. -/
def prettyAt (level : Nat) : Json → String
  | arr items => block level "[" "]" (prettyItems (level + 1) items)
  | obj fields => block level "\x7b" "\x7d" (prettyFields (level + 1) fields)
  | null => "null"
  | bool b => if b then "true" else "false"
  | int n => toString n
  | str s => quoted s

def prettyItems (level : Nat) : List Json → List String
  | [] => []
  | item :: rest => item.prettyAt level :: prettyItems level rest

def prettyFields (level : Nat) : List (String × Json) → List String
  | [] => []
  | (key, value) :: rest => (quoted key ++ ": " ++ value.prettyAt level) :: prettyFields level rest

end

/-- The value over several lines. -/
def pretty (j : Json) : String := j.prettyAt 0

/-! ## Parts -/

/-- The value of a field; `null` without one. -/
def field (j : Json) (key : String) : Json :=
  match j with
  | obj fields => (fields.lookup key).getD null
  | _ => null

/-- Why a value is not the JSON form of anything: what was wanted in its place. -/
structure Mismatch where
  wanted : String
  deriving DecidableEq, Repr, Inhabited

abbrev Reading (α : Type) := Except Mismatch α

def mismatch {α : Type} (wanted : String) : Reading α := .error ⟨wanted⟩

end Json

/-! ## Types with a JSON form -/

/-- A type whose values can be written as JSON. -/
class ToJson (α : Type) where
  toJson : α → Json

/-- A type whose values can be read from JSON. -/
class FromJson (α : Type) where
  fromJson : Json → Json.Reading α

export ToJson (toJson)
export FromJson (fromJson)

namespace Json

variable {α : Type}

/-- A field of an object to be written. -/
def entry [ToJson α] (key : String) (value : α) : String × Json := (key, toJson value)

/-- Reads a field. -/
def get [FromJson α] (j : Json) (key : String) : Reading α := fromJson (j.field key)

/-- Reads a field that may be absent. -/
def getOr [FromJson α] (j : Json) (key : String) (default : α) : Reading α :=
  match j.field key with
  | null => .ok default
  | value => fromJson value

/-- The name of a variant with its content: a text alone, or an object of one field. -/
def variant : Json → Reading (String × Json)
  | str name => .ok (name, null)
  | obj [(name, content)] => .ok (name, content)
  | _ => mismatch "a variant"

/-- A variant with content. -/
def tagged [ToJson α] (name : String) (content : α) : Json := obj [entry name content]

/-- The one of some values that has the name in a text. -/
def named (wanted : String) (all : List α) (name : α → String) : Json → Reading α
  | str text =>
      match all.find? fun a => name a == text with
      | some a => .ok a
      | none => mismatch wanted
  | _ => mismatch wanted

/-- An integer between two bounds. -/
def integer (low high : Int) : Json → Reading Int
  | int n => if low ≤ n ∧ n ≤ high then .ok n else mismatch "a number in range"
  | _ => mismatch "a number"

end Json

/-! ## Plain values -/

instance : ToJson Json := ⟨id⟩
instance : FromJson Json := ⟨.ok⟩

instance : ToJson Bool := ⟨.bool⟩

/-- An absent truth value is false. -/
instance : FromJson Bool where
  fromJson
    | .null => .ok false
    | .bool b => .ok b
    | _ => Json.mismatch "a truth value"

instance : ToJson String := ⟨.str⟩

instance : FromJson String where
  fromJson
    | .str s => .ok s
    | _ => Json.mismatch "a text"

instance {α : Type} [ToJson α] : ToJson (Option α) where
  toJson
    | none => .null
    | some a => toJson a

instance {α : Type} [FromJson α] : FromJson (Option α) where
  fromJson
    | .null => .ok none
    | j => some <$> fromJson j

instance {α : Type} [ToJson α] : ToJson (List α) := ⟨fun items => .arr (items.map toJson)⟩

/-- An absent list is empty. -/
instance {α : Type} [FromJson α] : FromJson (List α) where
  fromJson
    | .null => .ok []
    | .arr items => items.mapM fromJson
    | _ => Json.mismatch "a list"

instance : ToJson Int := ⟨.int⟩
instance : ToJson Nat := ⟨fun n => .int n⟩
instance : ToJson UInt8 := ⟨fun n => .int n.toNat⟩
instance : ToJson UInt16 := ⟨fun n => .int n.toNat⟩
instance : ToJson UInt32 := ⟨fun n => .int n.toNat⟩
instance : ToJson UInt64 := ⟨fun n => .int n.toNat⟩
instance : ToJson Int8 := ⟨fun n => .int n.toInt⟩
instance : ToJson Int16 := ⟨fun n => .int n.toInt⟩
instance : ToJson Int32 := ⟨fun n => .int n.toInt⟩

instance : FromJson Int where
  fromJson
    | .int n => .ok n
    | _ => Json.mismatch "a number"

instance : FromJson Nat where
  fromJson
    | .int (.ofNat n) => .ok n
    | _ => Json.mismatch "a natural number"

instance : FromJson UInt8 := ⟨fun j => (fun n => .ofInt n) <$> j.integer 0 (UInt8.size - 1)⟩
instance : FromJson UInt16 := ⟨fun j => (fun n => .ofInt n) <$> j.integer 0 (UInt16.size - 1)⟩
instance : FromJson UInt32 := ⟨fun j => (fun n => .ofInt n) <$> j.integer 0 (UInt32.size - 1)⟩
instance : FromJson UInt64 := ⟨fun j => (fun n => .ofInt n) <$> j.integer 0 (UInt64.size - 1)⟩
instance : FromJson Int8 :=
  ⟨fun j => (fun n => .ofInt n) <$> j.integer Int8.minValue.toInt Int8.maxValue.toInt⟩
instance : FromJson Int16 :=
  ⟨fun j => (fun n => .ofInt n) <$> j.integer Int16.minValue.toInt Int16.maxValue.toInt⟩
instance : FromJson Int32 :=
  ⟨fun j => (fun n => .ofInt n) <$> j.integer Int32.minValue.toInt Int32.maxValue.toInt⟩

/-! ## Bits -/

/-- A number in lower-case hexadecimal with at least so many digits. -/
def hexDigits (places n : Nat) : String :=
  let digits := Nat.toDigits 16 n
  String.ofList (List.replicate (places - digits.length) '0' ++ digits)

/-- The number that a text shows in hexadecimal. -/
def Json.hexNumber : Json → Json.Reading Nat
  | .str text =>
      match Text.digits? 16 text.toList with
      | some n => .ok n
      | none => Json.mismatch "a hexadecimal number"
  | _ => Json.mismatch "a hexadecimal number"

/-- A float is written by its bits; all that are not numbers are written alike. -/
instance : ToJson Float where
  toJson x := .str (if x.isNaN then "7ff8000000000000" else hexDigits 16 x.toBits.toNat)

instance : FromJson Float := ⟨fun j => (fun n => .ofBits (.ofNat n)) <$> j.hexNumber⟩

/-- Bytes that are written as hexadecimal text, two digits each. -/
structure Hex where
  bytes : List UInt8
  deriving DecidableEq, Repr, Inhabited

instance : ToJson Hex := ⟨fun h => .str (String.join (h.bytes.map fun b => hexDigits 2 b.toNat))⟩

/-- The bytes of pairs of hexadecimal digits. -/
def Hex.ofDigits? : List Char → Option (List UInt8)
  | [] => some []
  | [_] => none
  | a :: b :: rest => do
      let high ← Text.digit? 16 a
      let low ← Text.digit? 16 b
      pure (.ofNat (high * 16 + low) :: (← ofDigits? rest))

instance : FromJson Hex where
  fromJson
    | .str text =>
        match Hex.ofDigits? text.toList with
        | some bytes => .ok ⟨bytes⟩
        | none => Json.mismatch "hexadecimal bytes"
    | _ => Json.mismatch "hexadecimal bytes"

end ServoLink
