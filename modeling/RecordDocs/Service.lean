import RecordDocs.Expansion
import RecordDocs.Text.Lines
import RecordDocs.Text.Percent

/-!
# The documentation service

The service answers three kinds of requests, all of them reading: whether it is there, which types
it knows, and the documentation of one type. A path is decoded before it is matched, and a type
name takes exactly one of its segments. Whether a query is valid is settled before the type is
looked up. An answer is what a handler gives, before the text of its body is encoded.
-/

namespace RecordDocs.Service

open Text

structure Request where
  method : String
  path : List Char
  query : List Char
  deriving DecidableEq, Repr

inductive Route where
  | health
  | types
  | docs (typeName : String)
  deriving DecidableEq, Repr

/-- A node of a tree as an answer holds it. Its members are written on their own terms, not those of
the trees in a file. -/
inductive AnswerNode where
  | node (name signature : String) (docLines : List String) (children : List AnswerNode)

namespace AnswerNode

mutual

def ofDoc : DocNode String → AnswerNode
  | .node name signature docLines children => .node name signature docLines (ofDocs children)

def ofDocs : List (DocNode String) → List AnswerNode
  | [] => []
  | doc :: rest => ofDoc doc :: ofDocs rest

end

mutual

def toValue : AnswerNode → Value
  | .node name signature docLines children =>
      .dict [(.text "name", .str name), (.text "type_signature", .str signature),
        (.text "doc_lines", .list (docLines.map .str)),
        (.text "children", .list (toValues children))]

def toValues : List AnswerNode → List Value
  | [] => []
  | first :: rest => first.toValue :: toValues rest

end

end AnswerNode

inductive Response where
  | health
  | types (names : List String)
  | documentation (typeName : String) (nodes : List AnswerNode)
  | unknownType (cause : RootError)
  | notFound
  | notAllowed
  | invalid
  | redirect (location : String)

/-! ### Requests -/

/-- The path with its single dots left out and every double dot taking back the segment before. -/
def withoutDots (path : List Char) : List Char :=
  let segments := (splitAt '/' path).foldl (fun kept segment =>
    if segment = ['.'] then kept
    else if segment = ['.', '.'] then
      if kept = [] || kept = [[]] then kept else kept.dropLast
    else kept ++ [segment]) []
  ['/'].intercalate segments

/-- A request for a target: a path and, behind a question mark, a query. What follows a number sign
is not sent. -/
def Request.ofTarget (method target : String) : Request :=
  let sent := target.toList.takeWhile (· != '#')
  { method := method.map Char.toUpper
    path := withoutDots (sent.takeWhile (· != '?'))
    query := (sent.dropWhile (· != '?')).drop 1 }

def parameters (query : List Char) : List (String × String) :=
  let decode (chars : List Char) :=
    String.ofList (percentDecode (chars.map fun char => if char == '+' then ' ' else char))
  ((splitAt '&' query).filter (!·.isEmpty)).map fun parameter =>
    (decode (parameter.takeWhile (· != '=')), decode ((parameter.dropWhile (· != '=')).drop 1))

def lastValue? (name : String) (query : List Char) : Option String :=
  (parameters query).reverse.lookup name

def readFlag (text : String) : Option Bool :=
  let word := text.map Char.toLower
  if ["1", "true", "t", "yes", "y", "on"].contains word then some true
  else if ["0", "false", "f", "no", "n", "off"].contains word then some false
  else none

/-- Whether the root is asked for as a node of its own; none for a value that is no truth value. -/
def wrapRoot (query : List Char) : Option Bool :=
  match lastValue? "wrap_root" query with
  | none => some false
  | some text => readFlag text

/-! ### Routes -/

/-- The route of a decoded path. One line break at its end does not count. -/
def Route.ofPath? (path : List Char) : Option Route :=
  let path := if path.getLast? == some '\n' then path.dropLast else path
  match splitAt '/' path with
  | [[], segment] =>
      if segment = "health".toList then some .health
      else if segment = "types".toList then some .types
      else none
  | [[], first, typeName, last] =>
      if first = "types".toList ∧ last = "docs".toList ∧ typeName ≠ [] then
        some (.docs (String.ofList typeName))
      else none
  | _ => none

def withoutSlashes (path : List Char) : List Char :=
  (path.reverse.dropWhile (· == '/')).reverse

/-- Characters that stand for themselves in a location. -/
def isLocationChar (char : Char) : Bool :=
  isUnreserved char || ":/%#?=@[]!$&'()*+,;".toList.contains char

def location (host : String) (path query : List Char) : String :=
  let target := path ++ (if query.isEmpty then [] else '?' :: query)
  String.ofList (percentEncode isLocationChar (host.toList ++ target))

/-! ### Answers -/

def nodesOf (table : RecordTable) (wrapped : Bool) (typeName : String) :
    Except RootError (List AnswerNode) :=
  (if wrapped then table.buildRoot typeName else table.build typeName []).map fun expansion =>
    AnswerNode.ofDocs expansion.docs

def Route.answer (table : RecordTable) (query : List Char) : Route → Response
  | .health => .health
  | .types => .types table.keys
  | .docs typeName =>
      match wrapRoot query with
      | none => .invalid
      | some wrapped =>
          match nodesOf table wrapped typeName with
          | .ok nodes => .documentation typeName nodes
          | .error cause => .unknownType cause

/-- Answers a request to a host. A path that is a route but for slashes at its end is redirected
to it. -/
def answer (host : String) (table : RecordTable) (request : Request) : Response :=
  let path := percentDecode request.path
  match Route.ofPath? path with
  | some route => if request.method == "GET" then route.answer table request.query else .notAllowed
  | none =>
      if path.getLast? == some '/' && (Route.ofPath? (withoutSlashes path)).isSome then
        .redirect (location host (withoutSlashes path) request.query)
      else .notFound

namespace Response

def status : Response → Nat
  | .health => 200
  | .types _ => 200
  | .documentation _ _ => 200
  | .unknownType _ => 404
  | .notFound => 404
  | .notAllowed => 405
  | .invalid => 422
  | .redirect _ => 307

def detail (text : String) : Value :=
  .dict [(.text "detail", .str text)]

def body : Response → Option Value
  | .health => some (.dict [(.text "status", .str "ok")])
  | .types names => some (.dict [(.text "types", .list (names.map .str))])
  | .documentation typeName nodes =>
      some (.dict [(.text "type_name", .str typeName),
        (.text "fields", .list (AnswerNode.toValues nodes))])
  | .unknownType cause => some (detail cause.message)
  | .notFound => some (detail "Not Found")
  | .notAllowed => some (detail "Method Not Allowed")
  | .invalid => none
  | .redirect _ => none

end Response

end RecordDocs.Service
