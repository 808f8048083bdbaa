import ServoLink.Text.Blank
import ServoLink.Text.Quoted
import ServoLink.Text.Whole

/-!
# Firmware version — three numbers, ordered and packed into one word

A version is written `major.minor.patch`.  Packed it is `major * 65536 + minor * 256 + patch`, so
that the order of versions is the order of the packed words.
-/

namespace ServoLink

structure Firmware where
  major : UInt8
  minor : UInt8
  patch : UInt8
  deriving DecidableEq, Repr, Inhabited

namespace Firmware

def packed (v : Firmware) : UInt32 :=
  (v.major.toUInt32 <<< 16) ||| (v.minor.toUInt32 <<< 8) ||| v.patch.toUInt32

/-- The version in a packed word; the top byte is ignored. -/
def ofPacked (word : UInt32) : Firmware :=
  ⟨(word >>> 16).toUInt8, (word >>> 8).toUInt8, word.toUInt8⟩

/-- Major numbers decide first, then minor numbers, then patch numbers. -/
def compare (v w : Firmware) : Ordering :=
  (Ord.compare v.major w.major).then
    ((Ord.compare v.minor w.minor).then (Ord.compare v.patch w.patch))

def isBelow (v w : Firmware) : Bool := v.compare w == .lt

def text (v : Firmware) : String :=
  toString v.major.toNat ++ "." ++ toString v.minor.toNat ++ "." ++ toString v.patch.toNat

/-- A text that is not a version. -/
structure ParseError where
  text : String
  deriving DecidableEq, Repr

def ParseError.message (e : ParseError) : String :=
  "invalid firmware version " ++ Text.quoted e.text ++ " (expected major.minor.patch)"

/-- One part of a version: a number of at most 255. -/
def part? (cs : List Char) : Option UInt8 :=
  match Text.natural? 10 cs with
  | some n => if n ≤ 255 then some (.ofNat n) else none
  | none => none

/-- Reads three parts between points, with blanks around the whole. -/
def parse (text : String) : Except ParseError Firmware :=
  match Text.splitAtEach '.' (Text.trim text.toList) with
  | [a, b, c] =>
      match part? a, part? b, part? c with
      | some major, some minor, some patch => .ok ⟨major, minor, patch⟩
      | _, _, _ => .error ⟨text⟩
  | _ => .error ⟨text⟩

end Firmware
end ServoLink
