/-!
# TOML values — scalars, arrays and tables, and how a document builds them

A table remembers how it came about, since that decides what a later line may add to it.

* `Table.assign` — the effect of `key = value`;
* `Table.openTable` — the effect of a header `[key]`;
* `Table.openElement` — the effect of a header `[[key]]`.

A header may define a table that longer headers have only implied; no other table is defined twice.
Dotted keys extend the tables that dotted keys made.  Nothing is added to a value written in place.
-/

namespace ServoLink
namespace Toml

/-- How a table came about. -/
inductive TableForm where
  /-- By a header of its own, or as the document. -/
  | header
  /-- By being part of a longer header. -/
  | implied
  /-- By being part of a dotted key. -/
  | dotted
  /-- Written in place, between braces. -/
  | inline
  deriving DecidableEq, Repr, Inhabited

inductive Value where
  | string (text : String)
  | integer (n : Int)
  | float (x : Float)
  | boolean (b : Bool)
  /-- A date, a time or both; which one is not kept. -/
  | datetime
  /-- Written in place, between brackets. -/
  | array (items : List Value)
  /-- Made by headers `[[key]]`: the tables, the latest first. -/
  | tables (elements : List (List (String × Value)))
  /-- Entries in the order of their first mention. -/
  | table (form : TableForm) (entries : List (String × Value))
  deriving Repr, Inhabited

abbrev Entries := List (String × Value)

/-- What is wrong with a document. -/
inductive Problem where
  | unterminatedString
  | invalidString
  | invalidKey
  | invalidValue
  | invalidComment
  | tooDeep
  | expected (what : String)
  | duplicateKey (key : String)
  /-- A key goes on where there is no table, or none that can be added to. -/
  | notExtensible (key : String)
  deriving DecidableEq, Repr, Inhabited

def Problem.message : Problem → String
  | unterminatedString => "string without an end"
  | invalidString => "character or escape not allowed in a string"
  | invalidKey => "not a key"
  | invalidValue => "not a value"
  | invalidComment => "character not allowed in a comment"
  | tooDeep => "nested too deep"
  | expected what => "expected " ++ what
  | duplicateKey key => "duplicate key " ++ key
  | notExtensible key => key ++ " cannot be extended"

/-- The most parts of one key, and the most levels of brackets around one value. -/
def maxDepth : Nat := 80

/-- A dotted key: the tables it goes through, and the name at its end. -/
structure Key where
  path : List String
  name : String
  deriving DecidableEq, Repr, Inhabited

namespace Entries

/-- Puts a value at a key, in place of the one there. -/
def put (key : String) (value : Value) : Entries → Entries
  | [] => [(key, value)]
  | (k, v) :: rest => if k = key then (k, value) :: rest else (k, v) :: put key value rest

end Entries

/-- A table with its form. -/
structure Table where
  form : TableForm
  entries : Entries
  deriving Repr, Inhabited

namespace Table

def value (t : Table) : Value := .table t.form t.entries

def put (t : Table) (key : String) (value : Value) : Table :=
  { t with entries := Entries.put key value t.entries }

/-- A table that headers, or dotted keys, may go through. -/
def admits (dotted : Bool) : TableForm → Bool
  | .header => !dotted
  | .implied | .dotted => true
  | .inline => false

/-- Changes the table at the end of a path.  Tables that are missing on the way are made; of the
tables of an array the latest is meant. -/
def modifyAt (dotted : Bool) (change : Table → Except Problem Table) :
    List String → Table → Except Problem Table
  | [], t => change t
  | key :: path, t =>
      match t.entries.lookup key with
      | none => do
          let child ← modifyAt dotted change path ⟨if dotted then .dotted else .implied, []⟩
          pure (t.put key child.value)
      | some (.table form entries) =>
          if admits dotted form then do
            let child ← modifyAt dotted change path ⟨form, entries⟩
            pure (t.put key child.value)
          else .error (.duplicateKey key)
      -- A path through an array of tables means its latest element.
      | some (.tables (latest :: earlier)) => do
          let child ← modifyAt dotted change path ⟨.header, latest⟩
          pure (t.put key (.tables (child.entries :: earlier)))
      | some _ => .error (.notExtensible key)

/-- The effect of `key = value` in a table.  The last table of a dotted key is one that dotted keys
made. -/
def assign (key : Key) (value : Value) (t : Table) : Except Problem Table :=
  modifyAt true (fun t =>
    -- A dotted key does not reach into a table that a header made.
    if !key.path.isEmpty && t.form != .dotted then .error (.duplicateKey key.name)
    else
      match t.entries.lookup key.name with
      | some _ => .error (.duplicateKey key.name)
      | none => .ok (t.put key.name value)) key.path t

/-- The effect of the header of a table in a document. -/
def openTable (key : Key) (t : Table) : Except Problem Table :=
  modifyAt false (fun t =>
    match t.entries.lookup key.name with
    | none => .ok (t.put key.name (.table .header []))
    -- The one case in which a table that exists is defined.
    | some (.table .implied entries) => .ok (t.put key.name (.table .header entries))
    | some _ => .error (.duplicateKey key.name)) key.path t

/-- The effect of the header of a further table of an array in a document. -/
def openElement (key : Key) (t : Table) : Except Problem Table :=
  modifyAt false (fun t =>
    match t.entries.lookup key.name with
    | none => .ok (t.put key.name (.tables [[]]))
    | some (.tables elements) => .ok (t.put key.name (.tables ([] :: elements)))
    | some _ => .error (.duplicateKey key.name)) key.path t

/-- The table written in place with some entries. -/
def ofAssignments : List (Key × Value) → Table → Except Problem Table
  | [], t => .ok t
  | (key, value) :: rest, t => do ofAssignments rest (← t.assign key value)

end Table

end Toml
end ServoLink
