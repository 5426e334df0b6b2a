import RecordDocs.Text.CompatibilityTable
import RecordDocs.Text.Code

/-!
# Compatible characters

Characters that differ in their looks alone, such as wide letters, ligatures and letters composed
with marks, are the same letters in another form. The compatibility form of a text takes every
character apart, puts marks into the order of their classes and joins what can be joined, so that
texts that differ in such ways only have one form.
-/

namespace RecordDocs.Text

/-! ### The tables -/

def readHex (digits : String) : Nat :=
  digits.toList.foldl (fun code digit => code * 16 + (hexValue? digit).getD 0) 0

def entrySides (entry : String) : String × String :=
  match entry.splitOn "=" with
  | [left, right] => (left, right)
  | _ => (entry, "")

def readEntries (lines : List String) : List (String × List Nat) :=
  lines.flatMap fun line =>
    (line.splitOn " ").map fun entry =>
      let (left, right) := entrySides entry
      (left, (right.splitOn "+").map readHex)

def readRange (text : String) : Nat × Nat :=
  match text.splitOn "-" with
  | [first, last] => (readHex first, readHex last)
  | _ => (readHex text, readHex text)

def decompositions : List (Nat × Nat × List Nat) :=
  (readEntries decompositionEntries).map fun (range, parts) =>
    let (first, last) := readRange range
    (first, last, parts)

def compositions : List (List Nat × Nat) :=
  (readEntries compositionEntries).map fun (code, parts) => (parts, readHex code)

/-! ### Syllables -/

def syllableBase : Nat := 0xAC00
def leadBase : Nat := 0x1100
def vowelBase : Nat := 0x1161
/-- The code in front of the first that can end a syllable. -/
def tailBase : Nat := 0x11A7
def leadCount : Nat := 19
def vowelCount : Nat := 21
def tailCount : Nat := 28

def isSyllable (code : Nat) : Bool :=
  syllableBase ≤ code && code < syllableBase + leadCount * vowelCount * tailCount

def syllableParts (code : Nat) : List Nat :=
  let index := code - syllableBase
  let tail := index % tailCount
  [leadBase + index / (vowelCount * tailCount), vowelBase + index / tailCount % vowelCount]
    ++ if tail = 0 then [] else [tailBase + tail]

/-- A lead and a vowel make a syllable, and so do a syllable without a tail and a tail. -/
def joinSyllable? (first second : Nat) : Option Nat :=
  if leadBase ≤ first && first < leadBase + leadCount
      && vowelBase ≤ second && second < vowelBase + vowelCount then
    some (syllableBase + ((first - leadBase) * vowelCount + (second - vowelBase)) * tailCount)
  else if isSyllable first && (first - syllableBase) % tailCount = 0
      && tailBase < second && second < tailBase + tailCount then
    some (first + (second - tailBase))
  else none

/-! ### Taking apart -/

def decompose (code : Nat) : List Nat :=
  if code < 0x80 then [code]
  else if isSyllable code then syllableParts code
  else match decompositions.find? fun (first, last, _) => first ≤ code && code ≤ last with
    | some (first, _, [part]) => [part + (code - first)]
    | some (_, _, parts) => parts
    | none => [code]

def combiningClass (code : Nat) : Nat :=
  match combiningClassRanges.find? fun (first, last, _) => first ≤ code && code ≤ last with
  | some (_, _, rank) => rank
  | none => 0

/-- Puts a mark among the marks in front of it, which are given backwards. -/
def insertMark (rank code : Nat) : List (Nat × Nat) → List (Nat × Nat)
  | [] => [(rank, code)]
  | (other, before) :: rest =>
      if rank != 0 && other > rank then (other, before) :: insertMark rank code rest
      else (rank, code) :: (other, before) :: rest

def orderMarks (codes : List Nat) : List (Nat × Nat) :=
  (codes.foldl (fun ordered code => insertMark (combiningClass code) code ordered) []).reverse

/-! ### Joining -/

def join? (first second : Nat) : Option Nat :=
  (joinSyllable? first second).or (compositions.lookup [first, second])

/-- Joins marks with the base in front of them. `skipped` are, backwards, the marks that stay
between; one of them keeps off a later mark whose class is not higher, and any other character. -/
def joinMarks (base : Nat) (skipped : List Nat) (reached : Option Nat) :
    List (Nat × Nat) → List Nat
  | [] => base :: skipped.reverse
  | (rank, code) :: rest =>
      let isNear := match reached with
        | none => true
        | some highest => highest < rank
      match if isNear then join? base code else none with
      | some joined => joinMarks joined skipped reached rest
      | none =>
          if rank = 0 then base :: (skipped.reverse ++ joinMarks code [] none rest)
          else joinMarks base (code :: skipped) (some rank) rest

def joinAll : List (Nat × Nat) → List Nat
  | [] => []
  | (rank, code) :: rest =>
      if rank = 0 then joinMarks code [] none rest else code :: joinAll rest

def compatibilityForm (chars : List Char) : List Char :=
  if chars.all fun char => char.toNat < 0x80 then chars
  else
    (joinAll (orderMarks (chars.flatMap fun char => decompose char.toNat))).map Char.ofNat

end RecordDocs.Text
