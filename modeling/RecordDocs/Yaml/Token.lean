import RecordDocs.Number.Integer

/-!
# Tokens

What a text in the markup language is made of: marks that open and close collections, marks of
entries, keys and values, properties of nodes, and scalars. A text that breaks off with a fault ends
in a token for the fault.
-/

namespace RecordDocs.Yaml

inductive Fault where
  /-- The text breaks a rule of the language. -/
  | malformed
  /-- An escape denotes a number that is no character. -/
  | noCharacter
  /-- An escape denotes a number that does not fit a machine word. -/
  | oversizedCharacter
  | integer (cause : Number.IntegerFault)
  | notFloat (text : String)
  | yearRange (year : Nat)
  | monthRange
  | dayRange
  | hourRange
  | minuteRange
  | secondRange
  | offsetRange (wording : String)
  /-- A scalar declared to be a truth value is none of the words for one. -/
  | notTruthWord (word : String)
  /-- A scalar declared to be a number is empty. -/
  | emptyNumber
  /-- A scalar declared to be a point in time is not written as one. -/
  | notTimestamp
  /-- A node declared to be a point in time is a mapping. -/
  | notText
  /-- A number in groups of sixty has more groups than numbers reach. -/
  | oversizedWeight
  deriving DecidableEq, Repr

def Fault.message : Fault → String
  | .malformed => "malformed"
  | .noCharacter => "chr() arg not in range(0x110000)"
  | .oversizedCharacter => "Python int too large to convert to C int"
  | .integer cause => cause.message
  | .notFloat text => "could not convert string to float: " ++ Text.quoted text
  | .yearRange year => "year " ++ toString year ++ " is out of range"
  | .monthRange => "month must be in 1..12"
  | .dayRange => "day is out of range for month"
  | .hourRange => "hour must be in 0..23"
  | .minuteRange => "minute must be in 0..59"
  | .secondRange => "second must be in 0..59"
  | .offsetRange wording =>
      "offset must be a timedelta strictly between -timedelta(hours=24) and "
        ++ "timedelta(hours=24), not " ++ wording ++ "."
  | .notTruthWord word => Text.quoted word
  | .emptyNumber => "string index out of range"
  | .notTimestamp => "'NoneType' object has no attribute 'groupdict'"
  | .notText => "expected string or bytes-like object, got 'list'"
  | .oversizedWeight => "int too large to convert to float"

/-- A tag as it is written: a handle that stands for a longer text, and the rest. -/
structure TagText where
  handle : Option String
  suffix : String
  deriving DecidableEq, Repr

inductive Directive where
  | version (major : Nat)
  | tagHandle (handle expansion : String)
  | unknown
  deriving DecidableEq, Repr

inductive Token where
  | streamEnd
  | directive (directive : Directive)
  | documentStart
  | documentEnd
  | blockSequenceStart
  | blockMappingStart
  | blockEnd
  | flowSequenceStart
  | flowSequenceEnd
  | flowMappingStart
  | flowMappingEnd
  | blockEntry
  | flowEntry
  | key
  | value
  | alias (name : String)
  | anchor (name : String)
  | tag (tag : TagText)
  | scalar (text : String) (plain : Bool)
  | broken (fault : Fault)
  deriving DecidableEq, Repr

end RecordDocs.Yaml
