import RecordDocs.Text.Lines

/-!
# Paths

A path is a root, which is empty for a relative path, and the parts between slashes. Empty parts
and single dots do not count; double dots are kept as they are written. Exactly two slashes at the
front are a root of their own.
-/

namespace RecordDocs

structure Path where
  root : String
  parts : List String
  deriving DecidableEq, Repr

namespace Path

def partsOf (text : String) : List String :=
  ((Text.splitAt '/' text.toList).map String.ofList).filter fun part => part != "" && part != "."

def rootOf (text : String) : String :=
  if text.startsWith "///" then "/"
  else if text.startsWith "//" then "//"
  else if text.startsWith "/" then "/"
  else ""

def ofString (text : String) : Path :=
  ⟨rootOf text, partsOf text⟩

/-- The text of a path; one with neither root nor parts is written as a dot. -/
def text (path : Path) : String :=
  if path.root == "" && path.parts.isEmpty then "."
  else path.root ++ "/".intercalate path.parts

def isAbsolute (path : Path) : Bool :=
  path.root != ""

def name (path : Path) : String :=
  path.parts.getLast?.getD ""

def parent (path : Path) : Path :=
  { path with parts := path.parts.dropLast }

def join (path other : Path) : Path :=
  if other.isAbsolute then other else { path with parts := path.parts ++ other.parts }

/-- From the last dot of a name to its end, unless the dot is its first or its last character. -/
def suffixOf (name : List Char) : List Char :=
  let behind := name.reverse.takeWhile (· != '.')
  let before := (name.reverse.dropWhile (· != '.')).drop 1
  if behind.isEmpty || before.isEmpty then [] else '.' :: behind.reverse

def suffix (path : Path) : String :=
  String.ofList (suffixOf path.name.toList)

/-- The parts with every double dot taking back the part before it. -/
def collapse (parts : List String) : List String :=
  parts.foldl (fun kept part => if part == ".." then kept.dropLast else kept ++ [part]) []

end Path

end RecordDocs
