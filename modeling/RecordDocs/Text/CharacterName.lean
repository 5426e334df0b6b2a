import RecordDocs.Text.CharacterName.Alias
import RecordDocs.Text.CharacterName.Alphabets
import RecordDocs.Text.CharacterName.Historic
import RecordDocs.Text.CharacterName.Modern
import RecordDocs.Text.CharacterName.Notation
import RecordDocs.Text.CharacterName.Pictures
import RecordDocs.Text.CharacterName.Shapes
import RecordDocs.Text.CharacterName.Syllabaries
import RecordDocs.Text.CharacterName.Symbols
import RecordDocs.Text.Code
import RecordDocs.Text.Compatibility

/-!
# Characters by name

Characters have names in capital letters. Most are listed in tables; the names of ideographs end in
their codes, and those of Hangul syllables in the letters of their parts. In a listed name the case
of letters does not count.

A table of names is a list of entries between semicolons. An entry starts with one digit or letter
that says how many characters the name shares with the one before, and goes on with the rest of the
name. It is for the next code unless a code and an equality sign stand in front of it.
-/

namespace RecordDocs.Text

/-! ### Tables -/

/-- The number that a digit, a capital or a small letter stands for. -/
def sharedCount (mark : Char) : Nat :=
  let code := mark.toNat
  if mark.isDigit then code - 48 else if mark.isUpper then code - 55 else code - 61

/-- The code and the name of an entry behind the entry for another. -/
def readNameEntry (before : Nat × List Char) (entry : String) : Nat × List Char :=
  let (code, text) := match entry.splitOn "=" with
    | [code, text] => (readHex code, text)
    | _ => (before.1 + 1, entry)
  match text.toList with
  | [] => (code, [])
  | mark :: rest => (code, before.2.take (sharedCount mark) ++ rest)

def findName (wanted : List Char) (before : Nat × List Char) : List String → Option Nat
  | [] => none
  | entry :: rest =>
      let (code, name) := readNameEntry before entry
      if name = wanted then some code else findName wanted (code, name) rest

def nameTables : List (List String) :=
  [alphabetsNames, syllabariesNames, symbolsNames, shapesNames, modernNames, historicNames,
    notationNames, picturesNames, aliasNames]

def listedCode? (name : List Char) : Option Nat :=
  let wanted := name.map Char.toUpper
  nameTables.findSome? fun table =>
    findName wanted (0, []) (table.flatMap fun line => line.splitOn ";")

/-! ### Ideographs -/

def unifiedFront : List Char := "CJK UNIFIED IDEOGRAPH-".toList

def unifiedRanges : List (Nat × Nat) :=
  [(0x3400, 0x4DBF), (0x4E00, 0x9FFF), (0x20000, 0x2A6DF), (0x2A700, 0x2B738), (0x2B740, 0x2B81D),
    (0x2B820, 0x2CEA1), (0x2CEB0, 0x2EBE0), (0x30000, 0x3134A)]

def isUpperHexDigit (char : Char) : Bool :=
  char.isDigit || ('A' ≤ char && char ≤ 'F')

/-- The unified ideograph whose code is written in four or five digits. -/
def unifiedCode? (digits : List Char) : Option Nat :=
  let code := readHex (String.ofList digits)
  if (digits.length = 4 || digits.length = 5) && digits.all isUpperHexDigit
      && inRanges code unifiedRanges then some code
  else none

def codedFamilies : List (String × List (Nat × Nat)) :=
  [("CJK COMPATIBILITY IDEOGRAPH-", [(0xF900, 0xFA6D), (0xFA70, 0xFAD9), (0x2F800, 0x2FA1D)]),
    ("NUSHU CHARACTER-", [(0x1B170, 0x1B2FB)]),
    ("KHITAN SMALL SCRIPT CHARACTER-", [(0x18B00, 0x18CD5)])]

def codedCode? (name : List Char) : Option Nat :=
  let wanted := name.map Char.toUpper
  codedFamilies.findSome? fun (front, ranges) =>
    if front.toList.isPrefixOf wanted then
      let digits := wanted.drop front.length
      let code := readHex (String.ofList digits)
      if (digits.length = 4 || digits.length = 5) && digits.all isUpperHexDigit
          && digits.head? != some '0' && inRanges code ranges then some code
      else none
    else none

/-! ### Syllables -/

def syllableFront : List Char := "HANGUL SYLLABLE ".toList

def leadNames : List String :=
  ["G", "GG", "N", "D", "DD", "R", "M", "B", "BB", "S", "SS", "", "J", "JJ", "C", "K", "T", "P",
    "H"]

def vowelNames : List String :=
  ["A", "AE", "YA", "YAE", "EO", "E", "YEO", "YE", "O", "WA", "WAE", "OE", "YO", "U", "WEO", "WE",
    "WI", "YU", "EU", "YI", "I"]

def tailNames : List String :=
  ["", "G", "GG", "GS", "N", "NJ", "NH", "D", "L", "LG", "LM", "LB", "LS", "LT", "LP", "LH", "M",
    "B", "BS", "S", "SS", "NG", "J", "C", "K", "T", "P", "H"]

def longestFront (names : List String) (text : List Char) : Option (Nat × List Char) :=
  let found := names.zipIdx.foldl (fun best (name, index) =>
    if name.toList.isPrefixOf text && best.all (fun (length, _) => length ≤ name.length) then
      some (name.length, index)
    else best) none
  found.map fun (length, index) => (index, text.drop length)

def syllableCode? (letters : List Char) : Option Nat := do
  let (lead, rest) ← longestFront leadNames letters
  let (vowel, rest) ← longestFront vowelNames rest
  let (tail, rest) ← longestFront tailNames rest
  if rest.isEmpty then
    return syllableBase + (lead * vowelCount + vowel) * tailCount + tail
  else none

def namedCode? (name : List Char) : Option Nat :=
  if syllableFront.isPrefixOf name then syllableCode? (name.drop syllableFront.length)
  else if unifiedFront.isPrefixOf name then unifiedCode? (name.drop unifiedFront.length)
  else (codedCode? name).or (listedCode? name)

end RecordDocs.Text
