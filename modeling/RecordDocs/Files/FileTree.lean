import RecordDocs.Files.Path
import RecordDocs.Keyed
import RecordDocs.Text.Lines
import RecordDocs.Text.Utf8

/-!
# File trees

A file tree holds files and directories under absolute places, knows the working directory and the
home directories, and answers what a program can ask of a file system: what a path leads to, the
text of a file, a new directory, new content. Every step of a path but the last has to lead to a
directory, also a step back up.
-/

namespace RecordDocs

open Text

inductive FileNode where
  | directory
  | file (content : List UInt8)
  deriving DecidableEq

/-- An absolute place: the names on the way from the top. -/
abbrev Place := List String

structure FileTree where
  workingDirectory : Place
  /-- The home directory of each user; the empty name is the current user. -/
  homes : List (String × String)
  nodes : List (Place × FileNode)
  deriving DecidableEq

inductive SystemError where
  | noEntry
  | alreadyExists
  | notDirectory
  | isDirectory
  | nameTooLong
  deriving DecidableEq, Repr

def SystemError.number : SystemError → Nat
  | .noEntry => 2
  | .alreadyExists => 17
  | .notDirectory => 20
  | .isDirectory => 21
  | .nameTooLong => 36

def SystemError.wording : SystemError → String
  | .noEntry => "No such file or directory"
  | .alreadyExists => "File exists"
  | .notDirectory => "Not a directory"
  | .isDirectory => "Is a directory"
  | .nameTooLong => "File name too long"

inductive FileError where
  | system (cause : SystemError) (path : String)
  | nullCharacter
  | undecodable (fault : Utf8Fault)
  | unencodable (run : SurrogateRun)
  | noHome
  deriving DecidableEq, Repr

def FileError.message : FileError → String
  | .system cause path =>
      "[Errno " ++ toString cause.number ++ "] " ++ cause.wording ++ ": " ++ quoted path
  | .nullCharacter => "embedded null byte"
  | .undecodable fault => fault.message
  | .unencodable run => run.message
  | .noHome => "Could not determine home directory."

namespace FileTree

def nodeAt? (tree : FileTree) (place : Place) : Option FileNode :=
  if place.isEmpty then some .directory else tree.nodes.lookup place

/-- Follows the parts of a path from a place. Every step asks for a directory to take it from. -/
def follow (tree : FileTree) (place : Place) : List String → Except SystemError Place
  | [] => .ok place
  | part :: rest =>
      match tree.nodeAt? place with
      | none => .error .noEntry
      | some (.file _) => .error .notDirectory
      | some .directory =>
          if part == ".." then tree.follow place.dropLast rest
          else if (encodeUtf8 part).length > 255 then .error .nameTooLong
          else tree.follow (place ++ [part]) rest

def pathFault? (text : String) : Option FileError :=
  match barredInName? text.toList with
  | some run => some (.unencodable run)
  | none =>
      if text.toList.contains '\x00' then some .nullCharacter
      else if (encodeUtf8 text).length ≥ 4096 then some (.system .nameTooLong text)
      else none

/-- The place a path leads to, whether anything is there or not. -/
def placeOf (tree : FileTree) (path : Path) : Except FileError Place :=
  match pathFault? path.text with
  | some error => .error error
  | none =>
      (tree.follow (if path.isAbsolute then [] else tree.workingDirectory) path.parts).mapError
        fun cause => .system cause path.text

def nodeOf (tree : FileTree) (path : Path) : Except FileError FileNode := do
  match tree.nodeAt? (← tree.placeOf path) with
  | some node => return node
  | none => throw (.system .noEntry path.text)

/-- What a path leads to, if anything. A path that cannot lead anywhere leads to nothing, but one
that is too long is an error all the same. -/
def find? (tree : FileTree) (path : Path) : Except FileError (Option FileNode) :=
  match tree.nodeOf path with
  | .ok node => .ok (some node)
  | .error (.system .nameTooLong text) => .error (.system .nameTooLong text)
  | .error _ => .ok none

def isFile (tree : FileTree) (path : Path) : Except FileError Bool :=
  (tree.find? path).map fun
    | some (.file _) => true
    | _ => false

def isDirectory (tree : FileTree) (path : Path) : Except FileError Bool :=
  (tree.find? path).map fun
    | some .directory => true
    | _ => false

def exists? (tree : FileTree) (path : Path) : Except FileError Bool :=
  (tree.find? path).map Option.isSome

/-- The characters of a file, its line ends made line feeds. -/
def readText (tree : FileTree) (path : Path) : Except FileError (List Char) := do
  match ← tree.nodeOf path with
  | .directory => throw (.system .isDirectory path.text)
  | .file content =>
      match decodeUtf8 content with
      | .ok chars => return normaliseNewlines chars
      | .error fault => throw (.undecodable fault)

theorem readText_of_nodeOf {tree : FileTree} {path : Path} {content : List UInt8}
    (h : tree.nodeOf path = .ok (.file content)) :
    tree.readText path = ((decodeUtf8 content).mapError .undecodable).map normaliseNewlines := by
  rw [readText, h]
  change (match decodeUtf8 content with
    | .ok chars => Except.ok (normaliseNewlines chars)
    | .error fault => Except.error (FileError.undecodable fault)) = _
  cases decodeUtf8 content with
  | ok chars => rfl
  | error fault => rfl

def expandHome (tree : FileTree) (path : Path) : Except FileError Path :=
  match path.isAbsolute, path.parts with
  | false, first :: rest =>
      match first.toList with
      | '~' :: user =>
          match tree.homes.lookup (String.ofList user) with
          | some home => .ok ((Path.ofString home).join ⟨"", rest⟩)
          | none => .error .noHome
      | _ => .ok path
  | _, _ => .ok path

def resolve (tree : FileTree) (path : Path) : Except FileError Path :=
  if path.text.toList.contains '\x00' then .error .nullCharacter
  else
    let parts := if path.isAbsolute then path.parts else tree.workingDirectory ++ path.parts
    .ok ⟨"/", Path.collapse parts⟩

def withNode (tree : FileTree) (place : Place) (node : FileNode) : FileTree :=
  { tree with nodes := put place node tree.nodes }

def makeDirectory (tree : FileTree) (path : Path) : Except FileError FileTree := do
  let place ← tree.placeOf path
  match tree.nodeAt? place with
  | some _ => throw (.system .alreadyExists path.text)
  | none => return tree.withNode place .directory

/-- What becomes of the failure to make a directory: nothing if a directory is there already. -/
def acceptDirectory (tree : FileTree) (path : Path) (error : FileError) :
    Except FileError FileTree := do
  match error with
  | .unencodable _ => throw error
  | .nullCharacter => throw error
  | .system .noEntry _ => throw error
  | _ => if ← tree.isDirectory path then return tree else throw error

def ensureDirectory (tree : FileTree) (path : Path) : Except FileError FileTree :=
  match tree.makeDirectory path with
  | .ok made => .ok made
  | .error error => tree.acceptDirectory path error

abbrev Change := FileTree × Except FileError Unit

def change (tree : FileTree) : Except FileError FileTree → Change
  | .ok changed => (changed, .ok ())
  | .error error => (tree, .error error)

/-- Makes a directory and, where they are missing, those above it. Directories that were made before
a failure stay. -/
def makeDirectories (tree : FileTree) (path : Path) : Change :=
  match tree.makeDirectory path with
  | .ok made => (made, .ok ())
  | .error (.system .noEntry text) =>
      if _h : path.parts = [] then (tree, .error (.system .noEntry text))
      else
        match tree.makeDirectories path.parent with
        | (above, .ok ()) => above.change (above.ensureDirectory path)
        | (above, .error error) => (above, .error error)
  | .error error => tree.change (tree.acceptDirectory path error)
termination_by path.parts.length
decreasing_by
  have := List.length_pos_iff.mpr _h
  simp only [Path.parent, List.length_dropLast]
  omega

/-- Gives a file new content; the file may be new, the directory it is in has to be there. A file is
emptied before it is written, so a text that cannot be encoded leaves it empty. -/
def writeText (tree : FileTree) (path : Path) (text : String) : Change :=
  match tree.placeOf path with
  | .error error => (tree, .error error)
  | .ok place =>
      match tree.nodeAt? place with
      | some .directory => (tree, .error (.system .isDirectory path.text))
      | _ =>
          match firstSurrogates? text.toList with
          | some run => (tree.withNode place (.file []), .error (.unencodable run))
          | none => (tree.withNode place (.file (encodeUtf8 text)), .ok ())

def placesAbove (place : Place) : List Place :=
  (List.range (place.length - 1)).map fun index => place.take (index + 1)

def plant (tree : FileTree) (place : Place) (node : FileNode) : FileTree :=
  let grounded := (placesAbove place).foldl (fun tree above =>
    match tree.nodeAt? above with
    | some _ => tree
    | none => tree.withNode above .directory) tree
  grounded.withNode place node

/-- The tree with nothing in it but the directories on the way to the working directory. -/
def bare (workingDirectory : Place) (homes : List (String × String)) : FileTree :=
  ({ workingDirectory, homes, nodes := [] } : FileTree).plant workingDirectory .directory

def changedSince (tree before : FileTree) : List (Place × FileNode) :=
  tree.nodes.filter fun (place, node) => before.nodeAt? place != some node

end FileTree

end RecordDocs
