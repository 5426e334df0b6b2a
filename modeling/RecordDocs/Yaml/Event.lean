import RecordDocs.Yaml.Tag
import RecordDocs.Yaml.Token

/-!
# Events

The tokens of a text tell of documents in the order in which their parts are met: a scalar, an
alias, the start or end of a collection. What is expected next decides how a token is understood; an
expectation that is put off until a node has been met waits on a stack. A fault ends the events, and
everything told before it stands.
-/

namespace RecordDocs.Yaml

/-- What may be said of a node in front of it: an anchor, and a tag in full. -/
structure Properties where
  anchor : Option String
  tag : Option String
  deriving DecidableEq

def Properties.none : Properties := ⟨.none, .none⟩

inductive Event where
  | documentStart
  | documentEnd
  | streamEnd
  | alias (name : String)
  /-- A scalar; one that is plain is judged by its text if it has no tag. -/
  | scalar (properties : Properties) (text : String) (plain : Bool)
  | sequenceStart (properties : Properties)
  | sequenceEnd
  | mappingStart (properties : Properties)
  | mappingEnd
  | broken (fault : Fault)
  deriving DecidableEq

/-- Where nothing is written, an empty scalar is meant. -/
def Event.empty : Event := .scalar .none "" true

inductive Expectation where
  | firstDocument
  | document
  | content
  | documentEnd
  | blockNode
  | blockItem
  | indentlessItem
  | blockKey
  | blockValue
  /-- An item in brackets; every one but the first stands behind a comma. -/
  | flowItem (first : Bool)
  /-- The key, the value and the end of an entry that is an item in brackets by itself. -/
  | pairKey
  | pairValue
  | pairEnd
  | flowKey (first : Bool)
  | flowValue
  /-- The value of an entry in braces that has no colon. -/
  | flowNoValue
  | nothing
  deriving DecidableEq

abbrev Handles := List (String × String)

def standardHandles : Handles :=
  [("!", "!"), ("!!", Tag.standardFront)]

structure Telling where
  tokens : List Token
  handles : Handles
  expected : Expectation
  waiting : List Expectation

abbrev Step := Except Fault (Event × Telling)

def unexpected : List Token → Fault
  | .broken fault :: _ => fault
  | _ => .malformed

namespace Telling

def resume (telling : Telling) : Telling :=
  match telling.waiting with
  | [] => { telling with expected := .nothing }
  | next :: rest => { telling with expected := next, waiting := rest }

def tell (telling : Telling) (event : Event) : Step :=
  .ok (event, telling)

def fail (telling : Telling) : Step :=
  .error (unexpected telling.tokens)

/-! ### Nodes -/

def expandTag (telling : Telling) : TagText → Except Fault String
  | ⟨none, suffix⟩ => .ok suffix
  | ⟨some handle, suffix⟩ =>
      match telling.handles.lookup handle with
      | none => .error .malformed
      | some expansion => .ok (expansion ++ suffix)

/-- The anchor and the tag in front of a node, in either order. One of them alone is known to be
alone by the token behind it. -/
def properties (telling : Telling) : Except Fault (Properties × Telling) :=
  let tagged (anchor : Option String) (tag : TagText) (rest : List Token) :=
    (telling.expandTag tag).map fun tag =>
      ((⟨anchor, some tag⟩ : Properties), { telling with tokens := rest })
  match telling.tokens with
  | .anchor name :: .tag tag :: rest => tagged (some name) tag rest
  | .tag tag :: .anchor name :: rest => tagged (some name) tag rest
  | .anchor _ :: .broken fault :: _ => .error fault
  | .tag _ :: .broken fault :: _ => .error fault
  | .anchor name :: rest => .ok (⟨some name, none⟩, { telling with tokens := rest })
  | .tag tag :: rest => tagged none tag rest
  | _ => .ok (.none, telling)

/-- A node. In a block, collections may be marked by indentation; the items of a sequence that is a
value may stand at the column of the key. A node without content is an empty scalar if it has an
anchor or a tag. -/
def node (telling : Telling) (inBlock indentless : Bool) : Step :=
  match telling.tokens with
  | .alias name :: rest => { telling with tokens := rest }.resume.tell (.alias name)
  | _ =>
      match telling.properties with
      | .error fault => .error fault
      | .ok (properties, telling) =>
          let start (event : Event) (expected : Expectation) (tokens : List Token) : Step :=
            { telling with tokens, expected }.tell event
          let missing : Step :=
            if properties = .none then telling.fail
            else telling.resume.tell (.scalar properties "" true)
          match telling.tokens with
          | .blockEntry :: _ =>
              if indentless then start (.sequenceStart properties) .indentlessItem telling.tokens
              else missing
          | .scalar text plain :: rest =>
              { telling with tokens := rest }.resume.tell (.scalar properties text plain)
          | .flowSequenceStart :: rest => start (.sequenceStart properties) (.flowItem true) rest
          | .flowMappingStart :: rest => start (.mappingStart properties) (.flowKey true) rest
          | .blockSequenceStart :: rest =>
              if inBlock then start (.sequenceStart properties) .blockItem rest else missing
          | .blockMappingStart :: rest =>
              if inBlock then start (.mappingStart properties) .blockKey rest else missing
          | .broken fault :: _ => .error fault
          | _ => missing

/-- A node behind which something else is expected, or the empty scalar in front of a token that
cannot start one. -/
def nodeUnless (telling : Telling) (ends : Token → Bool) (inBlock indentless : Bool)
    (behind : Expectation) : Step :=
  match telling.tokens with
  | .broken fault :: _ => .error fault
  | token :: _ =>
      if ends token then { telling with expected := behind }.tell .empty
      else { telling with waiting := behind :: telling.waiting }.node inBlock indentless
  | [] => telling.fail

def endsItem (token : Token) : Bool :=
  token = .blockEntry || token = .blockEnd

def endsEntry (token : Token) : Bool :=
  token = .key || token = .value || token = .blockEnd

def endsBracketed (token : Token) : Bool :=
  token = .flowEntry || token = .flowSequenceEnd

def endsBraced (token : Token) : Bool :=
  token = .flowEntry || token = .flowMappingEnd

def close (telling : Telling) (event : Event) (rest : List Token) : Step :=
  { telling with tokens := rest }.resume.tell event

/-- Nothing is written; what follows must be something all the same. -/
def leaveOut (telling : Telling) (event : Event) (behind : Expectation) : Step :=
  match telling.tokens with
  | .broken fault :: _ => .error fault
  | _ => { telling with expected := behind }.tell event

/-! ### Documents -/

structure Preamble where
  versioned : Bool
  handles : Handles

/-- Adds a directive; version and handles can be given once only, and the version has to be the
first. -/
def Preamble.add (preamble : Preamble) : Directive → Except Fault Preamble
  | .version major =>
      if preamble.versioned || major != 1 then .error .malformed
      else .ok { preamble with versioned := true }
  | .tagHandle handle expansion =>
      if (preamble.handles.lookup handle).isSome then .error .malformed
      else .ok { preamble with handles := (handle, expansion) :: preamble.handles }
  | .unknown => .ok preamble

def readPreamble (preamble : Preamble) : List Token → Except Fault (Preamble × List Token)
  | .directive directive :: rest =>
      match preamble.add directive with
      | .error fault => .error fault
      | .ok preamble => readPreamble preamble rest
  | tokens => .ok (preamble, tokens)

/-- A document behind the end of another, with its directives and its mark, or the end of all. -/
def document (telling : Telling) : Step :=
  match telling.tokens.dropWhile (· = .documentEnd) with
  | .streamEnd :: rest => { telling with tokens := rest, expected := .nothing }.tell .streamEnd
  | tokens =>
      match readPreamble ⟨false, []⟩ tokens with
      | .error fault => .error fault
      | .ok (preamble, .documentStart :: rest) =>
          { telling with
            tokens := rest
            handles := preamble.handles ++ standardHandles
            expected := .content
            waiting := .documentEnd :: telling.waiting }.tell .documentStart
      | .ok (_, tokens) => .error (unexpected tokens)

def startsMarked : Token → Bool
  | .directive _ => true
  | .documentStart => true
  | .streamEnd => true
  | _ => false

def firstDocument (telling : Telling) : Step :=
  match telling.tokens with
  | .broken fault :: _ => .error fault
  | token :: _ =>
      if startsMarked token then telling.document
      else
        { telling with
          handles := standardHandles
          expected := .blockNode
          waiting := .documentEnd :: telling.waiting }.tell .documentStart
  | [] => telling.fail

def content (telling : Telling) : Step :=
  match telling.tokens with
  | .broken fault :: _ => .error fault
  | token :: _ =>
      if startsMarked token || token = .documentEnd then telling.resume.tell .empty
      else telling.node true false
  | [] => telling.fail

def documentEnd (telling : Telling) : Step :=
  match telling.tokens with
  | .broken fault :: _ => .error fault
  | .documentEnd :: rest =>
      { telling with tokens := rest, expected := .document }.tell .documentEnd
  | _ => { telling with expected := .document }.tell .documentEnd

/-! ### Collections -/

def separated (telling : Telling) (first : Bool) : Except Fault Telling :=
  if first then .ok telling
  else match telling.tokens with
    | .flowEntry :: rest => .ok { telling with tokens := rest }
    | tokens => .error (unexpected tokens)

def flowItem (telling : Telling) (first : Bool) : Step :=
  match telling.tokens with
  | .flowSequenceEnd :: rest => telling.close .sequenceEnd rest
  | _ =>
      match telling.separated first with
      | .error fault => .error fault
      | .ok telling =>
          match telling.tokens with
          | .key :: rest =>
              { telling with tokens := rest, expected := .pairKey }.tell (.mappingStart .none)
          | .flowSequenceEnd :: rest => telling.close .sequenceEnd rest
          | _ => { telling with waiting := .flowItem false :: telling.waiting }.node false false

def flowKey (telling : Telling) (first : Bool) : Step :=
  match telling.tokens with
  | .flowMappingEnd :: rest => telling.close .mappingEnd rest
  | _ =>
      match telling.separated first with
      | .error fault => .error fault
      | .ok telling =>
          match telling.tokens with
          | .key :: rest =>
              { telling with tokens := rest }.nodeUnless
                (fun token => token = Token.value || endsBraced token) false false .flowValue
          | .flowMappingEnd :: rest => telling.close .mappingEnd rest
          | _ => { telling with waiting := .flowNoValue :: telling.waiting }.node false false

def valueOr (telling : Telling) (ends : Token → Bool) (inBlock : Bool) (behind : Expectation) :
    Step :=
  match telling.tokens with
  | .value :: rest => { telling with tokens := rest }.nodeUnless ends inBlock inBlock behind
  | _ => telling.leaveOut .empty behind

def step (telling : Telling) : Step :=
  match telling.expected with
  | .firstDocument => telling.firstDocument
  | .document => telling.document
  | .content => telling.content
  | .documentEnd => telling.documentEnd
  | .blockNode => telling.node true false
  | .blockItem =>
      match telling.tokens with
      | .blockEntry :: rest =>
          { telling with tokens := rest }.nodeUnless endsItem true false .blockItem
      | .blockEnd :: rest => telling.close .sequenceEnd rest
      | _ => telling.fail
  | .indentlessItem =>
      match telling.tokens with
      | .blockEntry :: rest =>
          { telling with tokens := rest }.nodeUnless
            (fun token => endsItem token || endsEntry token) true false .indentlessItem
      | .broken fault :: _ => .error fault
      | _ => telling.resume.tell .sequenceEnd
  | .blockKey =>
      match telling.tokens with
      | .key :: rest => { telling with tokens := rest }.nodeUnless endsEntry true true .blockValue
      | .blockEnd :: rest => telling.close .mappingEnd rest
      | _ => telling.fail
  | .blockValue => telling.valueOr endsEntry true .blockKey
  | .flowItem first => telling.flowItem first
  | .pairKey =>
      telling.nodeUnless (fun token => token = Token.value || endsBracketed token) false false
        .pairValue
  | .pairValue =>
      telling.valueOr endsBracketed false .pairEnd
  | .pairEnd => telling.leaveOut .mappingEnd (.flowItem false)
  | .flowKey first => telling.flowKey first
  | .flowValue =>
      telling.valueOr endsBraced false (.flowKey false)
  | .flowNoValue => telling.leaveOut .empty (.flowKey false)
  | .nothing => telling.fail

def run : Nat → Telling → List Event
  | 0, _ => [.broken .malformed]
  | fuel + 1, telling =>
      match telling.step with
      | .error fault => [.broken fault]
      | .ok (.streamEnd, _) => [.streamEnd]
      | .ok (event, telling) => event :: run fuel telling

end Telling

/-- The events of a text with the given tokens. Between two tokens there are only so many events
that nothing is written for. -/
def events (tokens : List Token) : List Event :=
  Telling.run (8 * tokens.length + 8) ⟨tokens, [], .firstDocument, []⟩

end RecordDocs.Yaml
