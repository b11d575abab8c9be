/- module: Contracts/Text
   source: the string functions of the standard library that the crates call
   digest: Lines, trimming and splitting of texts, and tests on single bytes. -/
import Mathlib.Data.List.Basic
import Mathlib.Data.List.DropRight

set_option autoImplicit false

namespace JwOps.Contracts.Text

/-! ### Texts -/

/-- `char::is_whitespace`: the code points with the property `White_Space`. -/
def isWhitespace (c : Char) : Bool :=
  (0x09 ≤ c.toNat && c.toNat ≤ 0x0D) || (0x2000 ≤ c.toNat && c.toNat ≤ 0x200A) ||
    c.toNat ∈ [0x20, 0x85, 0xA0, 0x1680, 0x2028, 0x2029, 0x202F, 0x205F, 0x3000]

def trim (text : List Char) : List Char := (text.dropWhile isWhitespace).rdropWhile isWhitespace

def toAsciiLowercase (text : List Char) : List Char :=
  text.map fun c => if 'A' ≤ c && c ≤ 'Z' then Char.ofNat (c.toNat + 32) else c

/-- The parts before and after the first separator. -/
def splitOnce {α : Type} [DecidableEq α] (separator : α) : List α → Option (List α × List α)
  | [] => none
  | item :: rest =>
    if item = separator then some ([], rest)
    else (splitOnce separator rest).map fun parts => (item :: parts.1, parts.2)

/-- What follows `start`, as `strip_prefix`. -/
def stripText (start : String) (text : List Char) : Option (List Char) :=
  if start.toList.isPrefixOf text then some (text.drop start.toList.length) else none

/-- A line feed ends a line together with one carriage return before it. The text after the last
line feed is a line only if it is not empty, and it keeps its carriage return. -/
def endLines : List (List Char) → List (List Char)
  | [] => []
  | [last] => if last.isEmpty then [] else [last]
  | line :: rest =>
    (if line.getLast? = some '\r' then line.dropLast else line) :: endLines rest

/-- `str::lines`. -/
def lines (text : List Char) : List (List Char) := endLines (text.splitOn '\n')

/-! ### Bytes -/

def isDigitByte (byte : UInt8) : Bool := 48 ≤ byte && byte ≤ 57
def isUppercaseByte (byte : UInt8) : Bool := 65 ≤ byte && byte ≤ 90
def isLowercaseByte (byte : UInt8) : Bool := 97 ≤ byte && byte ≤ 122
def isAlphabeticByte (byte : UInt8) : Bool := isUppercaseByte byte || isLowercaseByte byte
def isAlphanumericByte (byte : UInt8) : Bool := isAlphabeticByte byte || isDigitByte byte

end JwOps.Contracts.Text
