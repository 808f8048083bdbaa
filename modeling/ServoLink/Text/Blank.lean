/-!
# Blank characters — white space around and between words

`isBlank` is the white-space property of characters, ASCII and beyond.
-/

namespace ServoLink
namespace Text

def isBlank (c : Char) : Bool :=
  let n := c.toNat
  (9 ≤ n && n ≤ 13) || n == 0x20 || n == 0x85 || n == 0xA0 || n == 0x1680
    || (0x2000 ≤ n && n ≤ 0x200A) || n == 0x2028 || n == 0x2029 || n == 0x202F || n == 0x205F
    || n == 0x3000

/-- The characters without blanks at either end. -/
def trim (cs : List Char) : List Char :=
  ((cs.dropWhile isBlank).reverse.dropWhile isBlank).reverse

def trimmed (text : String) : String := String.ofList (trim text.toList)

/-- The maximal runs of characters that are not blank; `word` is the run read so far. -/
def wordsFrom (word : List Char) : List Char → List (List Char)
  | [] => if word.isEmpty then [] else [word.reverse]
  | c :: rest =>
      if isBlank c then
        if word.isEmpty then wordsFrom [] rest else word.reverse :: wordsFrom [] rest
      else wordsFrom (c :: word) rest

/-- The words of a line: its maximal runs of characters that are not blank. -/
def words (line : String) : List (List Char) := wordsFrom [] line.toList

/-- The parts between the separators; `part` is the part read so far. -/
def partsFrom (separator : Char) (part : List Char) : List Char → List (List Char)
  | [] => [part.reverse]
  | c :: rest =>
      if c = separator then part.reverse :: partsFrom separator [] rest
      else partsFrom separator (c :: part) rest

/-- Cuts at every separator; there is always at least one part. -/
def splitAtEach (separator : Char) (cs : List Char) : List (List Char) :=
  partsFrom separator [] cs

end Text
end ServoLink
