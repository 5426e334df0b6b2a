import RecordDocs.Number.FloatLiteral
import RecordDocs.Text.Code
import RecordDocs.Yaml.Timestamp

/-!
# Kinds of nodes

Every node has a tag that says what it denotes. A plain scalar without a tag gets one from its
text: the words for truth values and null, numbers in several bases and in sexagesimal notation,
points in time, the merge key and the default key; any other text is a string.
-/

namespace RecordDocs.Yaml

inductive Tag where
  | null
  | bool
  | int
  | float
  | str
  | binary
  | timestamp
  | seq
  | map
  | omap
  | pairs
  | set
  | merge
  | default
  | unknown
  deriving DecidableEq, Repr

namespace Tag

def standardFront : String := "tag:yaml.org,2002:"

def ofText (text : String) : Tag :=
  if text.startsWith standardFront then
    match (text.drop standardFront.length).toString with
    | "null" => .null
    | "bool" => .bool
    | "int" => .int
    | "float" => .float
    | "str" => .str
    | "binary" => .binary
    | "timestamp" => .timestamp
    | "seq" => .seq
    | "map" => .map
    | "omap" => .omap
    | "pairs" => .pairs
    | "set" => .set
    | "merge" => .merge
    | "value" => .default
    | _ => .unknown
  else .unknown

def truthWords : List (String × Bool) :=
  [("yes", true), ("no", false), ("true", true), ("false", false), ("on", true), ("off", false)]

def casings (word : String) : List String :=
  [word, word.capitalize, word.map Char.toUpper]

def isTruthWord (text : String) : Bool :=
  truthWords.any fun (word, _) => (casings word).contains text

def isNullWord (text : String) : Bool :=
  text == "" || text == "~" || (casings "null").contains text

def dropSign : List Char → List Char
  | '+' :: rest => rest
  | '-' :: rest => rest
  | chars => chars

def isDigitOrGap (char : Char) : Bool :=
  char.isDigit || char == '_'

def sexagesimalGroups : Nat → List Char → Option (List Char)
  | 0, _ => none
  | fuel + 1, ':' :: rest =>
      let digits := (rest.takeWhile Char.isDigit).take 2
      match digits with
      | [] => none
      | first :: more =>
          if !more.isEmpty && first > '5' then
            -- only the first digit belongs to the group, and a digit cannot follow it
            none
          else
            let left := rest.drop digits.length
            match left with
            | ':' :: _ => sexagesimalGroups fuel left
            | _ => some left
  | _ + 1, _ => none

def sexagesimal (zeroFirst : Bool) (chars : List Char) : Option (List Char) :=
  match chars with
  | first :: rest =>
      if first.isDigit && (zeroFirst || first != '0') then
        let left := rest.dropWhile isDigitOrGap
        sexagesimalGroups (left.length + 1) left
      else none
  | [] => none

def isIntText (chars : List Char) : Bool :=
  let unsigned := dropSign chars
  let decimal := match unsigned with
    | ['0'] => true
    | first :: rest => first.isDigit && first != '0' && rest.all isDigitOrGap
    | [] => false
  let based := match unsigned with
    | '0' :: 'b' :: rest => !rest.isEmpty && rest.all fun c => c == '0' || c == '1' || c == '_'
    | '0' :: 'x' :: rest =>
        !rest.isEmpty && rest.all fun c => (Text.hexValue? c).isSome || c == '_'
    | '0' :: rest => !rest.isEmpty && rest.all fun c => ('0' ≤ c && c ≤ '7') || c == '_'
    | _ => false
  decimal || based || sexagesimal false unsigned == some []

def isExponentText : List Char → Bool
  | [] => true
  | letter :: sign :: digits =>
      (letter == 'e' || letter == 'E') && (sign == '+' || sign == '-')
        && !digits.isEmpty && digits.all Char.isDigit
  | _ => false

def isFloatText (chars : List Char) : Bool :=
  let unsigned := dropSign chars
  let pointed := match unsigned with
    | first :: rest =>
        first.isDigit && (match rest.dropWhile isDigitOrGap with
          | '.' :: decimals => isExponentText (decimals.dropWhile isDigitOrGap)
          | _ => false)
    | [] => false
  let bare := match chars with
    | '.' :: first :: rest => first.isDigit && isExponentText (rest.dropWhile isDigitOrGap)
    | _ => false
  let sixty := match sexagesimal true unsigned with
    | some ('.' :: decimals) => decimals.all isDigitOrGap
    | _ => false
  pointed || bare || sixty
    || [".inf", ".Inf", ".INF"].contains (String.ofList unsigned)
    || [".nan", ".NaN", ".NAN"].contains (String.ofList chars)

/-- A line feed at the end of a text does not count for its form. -/
def withoutFinalBreak (chars : List Char) : List Char :=
  if chars.length > 1 && chars.getLast? == some '\n' then chars.dropLast else chars

/-- The tag that the text of a plain scalar has. The marks of tags, anchors and aliases have a tag
that nobody reads. -/
def ofPlain (text : String) : Tag :=
  let chars := withoutFinalBreak text.toList
  let trimmed := String.ofList chars
  if isTruthWord trimmed then .bool
  else if isFloatText chars then .float
  else if isIntText chars then .int
  else if trimmed == "<<" then .merge
  else if isNullWord trimmed then .null
  else if Timestamp.isImplicit chars then .timestamp
  else if trimmed == "=" then .default
  else if ["!", "&", "*"].contains trimmed then .unknown
  else .str

def isCollection : Tag → Bool
  | .seq | .map | .omap | .pairs | .set => true
  | _ => false

def isScalar : Tag → Bool
  | .null | .bool | .int | .float | .str | .binary | .timestamp => true
  | _ => false

end Tag

end RecordDocs.Yaml
