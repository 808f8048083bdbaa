import ServoLink.Text.Whole

/-!
# Network addresses — their text, read and written

Four-part addresses are strictly decimal: four numbers up to 255 without leading zeros.
Eight-part addresses follow the usual rules: hexadecimal groups, at most one run of zero groups
left out, an embedded four-part address in the last two groups.  In writing, the first longest run
of at least two zero groups is left out, and an address that embeds a four-part one shows it.
-/

namespace ServoLink
namespace Net

inductive Ip where
  | v4 (a b c d : UInt8)
  | v6 (groups : Vector UInt16 8)
  deriving DecidableEq, Repr, Inhabited

/-- An address and a port. -/
structure Endpoint where
  ip : Ip
  port : UInt16
  deriving DecidableEq, Repr, Inhabited

/-! ## Reading -/

/-- Takes digits of the base off the front. -/
def takeDigits (base : Nat) : List Char → List Char × List Char
  | [] => ([], [])
  | c :: rest =>
      match Text.digit? base c with
      | some _ => ((takeDigits base rest).map (c :: ·) id)
      | none => ([], c :: rest)

/-- A number of at most `most` digits. -/
def number? (base most : Nat) (cs : List Char) : Option (Nat × List Char) :=
  let (ds, rest) := takeDigits base cs
  if most < ds.length then none else (Text.digits? base ds).map (·, rest)

/-- One part of a four-part address. -/
def octet? (cs : List Char) : Option (UInt8 × List Char) :=
  match number? 10 3 cs with
  | none => none
  | some (n, rest) =>
      let leadingZero := match cs with
        | '0' :: second :: _ => (Text.digit? 10 second).isSome
        | _ => false
      if leadingZero || 255 < n then none else some (.ofNat n, rest)

/-- The rest after the given character. -/
def after? (c : Char) : List Char → Option (List Char)
  | d :: rest => if d = c then some rest else none
  | [] => none

def v4? (cs : List Char) : Option ((UInt8 × UInt8 × UInt8 × UInt8) × List Char) := do
  let (a, cs) ← octet? cs
  let (b, cs) ← octet? (← after? '.' cs)
  let (c, cs) ← octet? (← after? '.' cs)
  let (d, cs) ← octet? (← after? '.' cs)
  pure ((a, b, c, d), cs)

/-- Joins two bytes, high byte first. -/
def join (high low : UInt8) : UInt16 := (high.toUInt16 <<< 8) ||| low.toUInt16

/-- A run of groups, with what follows it. -/
structure Groups where
  groups : List UInt16
  endsInV4 : Bool
  rest : List Char

/-- Reads up to `most` groups between colons; a four-part address may stand in the last two. -/
def readGroups : (most : Nat) → (first : Bool) → List Char → Groups
  | 0, _, cs => ⟨[], false, cs⟩
  | most + 1, first, cs =>
      match if first then some cs else after? ':' cs with
      | none => ⟨[], false, cs⟩
      | some body =>
          -- Four parts take the room of two groups.
          match if 0 < most then v4? body else none with
          | some ((a, b, c, d), rest) => ⟨[join a b, join c d], true, rest⟩
          | none =>
              match number? 16 4 body with
              | none => ⟨[], false, cs⟩
              | some (g, rest) =>
                  let more := readGroups most false rest
                  { more with groups := .ofNat g :: more.groups }

/-- Eight groups, if there are as many. -/
def Ip.ofGroups? (groups : List UInt16) : Option Ip :=
  if h : groups.length = 8 then some (.v6 ⟨groups.toArray, by simpa using h⟩) else none

def v6? (cs : List Char) : Option (Ip × List Char) := do
  let head := readGroups 8 true cs
  if head.groups.length = 8 then
    (Ip.ofGroups? head.groups).map (·, head.rest)
  else if head.endsInV4 then none
  else
    let cs ← after? ':' (← after? ':' head.rest)
    -- The run that is left out stands for at least one group.
    let tail := readGroups (7 - head.groups.length) true cs
    let zeros := List.replicate (8 - head.groups.length - tail.groups.length) 0
    (Ip.ofGroups? (head.groups ++ zeros ++ tail.groups)).map (·, tail.rest)

/-- The address a text denotes. -/
def Ip.parse? (text : String) : Option Ip :=
  let cs := text.toList
  match v4? cs with
  | some ((a, b, c, d), rest) => if rest.isEmpty then some (.v4 a b c d) else none
  | none =>
      match v6? cs with
      | some (ip, []) => some ip
      | _ => none

/-- A port after a colon, up to the end. -/
def port? (cs : List Char) : Option UInt16 := do
  let n ← Text.digits? 10 (← after? ':' cs)
  if n < 65536 then some (.ofNat n) else none

/-- Drops a numeric scope after a percent sign. -/
def dropScope? (cs : List Char) : Option (List Char) :=
  match cs with
  | '%' :: rest =>
      let (ds, rest) := takeDigits 10 rest
      match Text.digits? 10 ds with
      | some n => if n < UInt32.size then some rest else none
      | none => none
  | _ => some cs

/-- The endpoint a text denotes; an eight-part address stands in brackets. -/
def Endpoint.parse? (text : String) : Option Endpoint :=
  match text.toList with
  | '[' :: cs => do
      let (ip, rest) ← v6? cs
      let port ← port? (← after? ']' (← dropScope? rest))
      pure ⟨ip, port⟩
  | cs => do
      let ((a, b, c, d), rest) ← v4? cs
      let port ← port? rest
      pure ⟨.v4 a b c d, port⟩

/-! ## Writing -/

def v4Text (a b c d : UInt8) : String :=
  ".".intercalate ([a, b, c, d].map fun n => toString n.toNat)

/-- Start and length of the first longest run of zero groups; `i` is the position of the head. -/
def longestZeros : (i : Nat) → List UInt16 → Nat × Nat
  | _, [] => (0, 0)
  | i, g :: rest =>
      let here := ((g :: rest).takeWhile (· == 0)).length
      let later := longestZeros (i + 1) rest
      -- Of runs of one length the first is taken.
      if later.2 ≤ here then (i, here) else later

def groupsText (groups : List UInt16) : String :=
  ":".intercalate (groups.map fun g => String.ofList (Nat.toDigits 16 g.toNat))

def Ip.text : Ip → String
  | .v4 a b c d => v4Text a b c d
  | .v6 groups =>
      match groups.toList with
      | [0, 0, 0, 0, 0, 0xFFFF, x, y] =>
          "::ffff:" ++ v4Text (x >>> 8).toUInt8 x.toUInt8 (y >>> 8).toUInt8 y.toUInt8
      | gs =>
          let (start, length) := longestZeros 0 gs
          if length < 2 then groupsText gs
          else groupsText (gs.take start) ++ "::" ++ groupsText (gs.drop (start + length))

def Endpoint.text (e : Endpoint) : String :=
  let host := match e.ip with
    | .v4 .. => e.ip.text
    | .v6 _ => "[" ++ e.ip.text ++ "]"
  host ++ ":" ++ toString e.port.toNat

/-- Any local address of the family of the peer. -/
def Endpoint.wildcard (peer : Endpoint) (port : UInt16) : Endpoint :=
  match peer.ip with
  | .v4 .. => ⟨.v4 0 0 0 0, port⟩
  | .v6 _ => ⟨.v6 (.replicate 8 0), port⟩

end Net
end ServoLink
