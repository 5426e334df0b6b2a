import RecordDocs.Text.Code
import RecordDocs.Text.Quoted

/-!
# Reading a command line

A grammar lists the options of a program and says where its operands may stand. A word that starts
with a dash is an option, unless it is a negative number or holds a space and is no known option.
Long options may be shortened to any unambiguous beginning and take a text behind an equality sign;
short ones may stand together behind one dash, the last with its text attached. Behind a word of
two dashes everything is an operand. Operands are the first run of words that are no options; later
runs, and options that are not known, are kept aside as unrecognized.
-/

namespace RecordDocs.Command

open Text

inductive ArgumentFault where
  | missingText
  | unexpectedText (text : String)
  | notInteger (text : String)
  | notChoice (text : String) (choices : List String)
  deriving DecidableEq, Repr

def ArgumentFault.message : ArgumentFault → String
  | .missingText => "expected one argument"
  | .unexpectedText text => "ignored explicit argument " ++ quoted text
  | .notInteger text => "invalid int value: " ++ quoted text
  | .notChoice text choices =>
      "invalid choice: " ++ quoted text ++ " (choose from "
        ++ ", ".intercalate (choices.map quoted) ++ ")"

inductive UsageFault where
  | argument (name : String) (fault : ArgumentFault)
  | ambiguous (word : String) (candidates : List String)
  | missing (names : List String)
  | unrecognized (words : List String)
  deriving DecidableEq, Repr

def UsageFault.message : UsageFault → String
  | .argument name fault => "argument " ++ name ++ ": " ++ fault.message
  | .ambiguous word candidates =>
      "ambiguous option: " ++ word ++ " could match " ++ ", ".intercalate candidates
  | .missing names => "the following arguments are required: " ++ ", ".intercalate names
  | .unrecognized words => "unrecognized arguments: " ++ " ".intercalate words

/-- Why a command line leads to no run: it breaks the rules of a program, or it asks for help. -/
inductive Stop where
  | usage (program : String) (fault : UsageFault)
  | help (program : String)
  deriving DecidableEq, Repr

inductive Effect (Selection : Type) where
  | flag (set : Selection → Selection)
  | text (set : String → Selection → Except ArgumentFault Selection)
  | help

structure OptionSpec (Selection : Type) where
  spellings : List String
  effect : Effect Selection

def OptionSpec.name {Selection : Type} (option : OptionSpec Selection) : String :=
  "/".intercalate option.spellings

def OptionSpec.takesText {Selection : Type} (option : OptionSpec Selection) : Bool :=
  match option.effect with
  | .text _ => true
  | _ => false

inductive OperandRule where
  | nowhere
  | firstRun
  /-- From the first operand on, everything is one, options too. -/
  | everythingAfter
  deriving DecidableEq, Repr

structure Grammar (Selection : Type) where
  program : String
  options : List (OptionSpec Selection)
  operands : OperandRule

variable {Selection : Type}

/-! ### Words -/

/-- An option as it is found in a word, with the text written into the same word, if any. -/
structure OptionUse (Selection : Type) where
  option : OptionSpec Selection
  short : Bool
  attachment : Option (List Char)

inductive Word (Selection : Type) where
  | operand (text : String)
  | separator
  | option (text : String) (found : OptionUse Selection)
  | unknownOption (text : String)

def separatorText : String := "--"

namespace Word

def text : Word Selection → String
  | .operand text => text
  | .separator => separatorText
  | .option text _ => text
  | .unknownOption text => text

def isOption : Word Selection → Bool
  | .option _ _ => true
  | .unknownOption _ => true
  | _ => false

end Word

/-- A number below zero, in digits of any script, with or without a decimal point. -/
def isNegativeNumber : List Char → Bool
  | '-' :: body =>
      let isDigit (char : Char) := (digitValue? char).isSome
      let chars := if body.getLast? == some '\n' then body.dropLast else body
      match chars.dropWhile isDigit with
      | [] => !chars.isEmpty
      | '.' :: fraction => !fraction.isEmpty && fraction.all isDigit
      | _ => false
  | _ => false

namespace Grammar

variable (grammar : Grammar Selection)

def spellings : List (String × OptionSpec Selection) :=
  grammar.options.flatMap fun option => option.spellings.map fun spelling => (spelling, option)

def find? (spelling : String) : Option (OptionSpec Selection) :=
  grammar.spellings.lookup spelling

/-- The beginning of a word up to an equality sign, and what is attached behind it. -/
def splitSign (chars : List Char) : List Char × Option (List Char) :=
  match chars.dropWhile (· != '=') with
  | [] => (chars, none)
  | _ :: text => (chars.takeWhile (· != '='), some text)

/-- The options a word may stand for when it is not spelled out: long ones by their beginning, a
short one with its text attached. -/
def candidates (chars : List Char) : List (String × OptionUse Selection) :=
  match chars with
  | '-' :: '-' :: _ =>
      let (beginning, attachment) := splitSign chars
      (grammar.spellings.filter fun (spelling, _) => beginning.isPrefixOf spelling.toList).map
        fun (spelling, option) => (spelling, ⟨option, false, attachment⟩)
  | '-' :: letter :: text =>
      let short := String.ofList ['-', letter]
      ((grammar.find? short).map fun option =>
        (short, (⟨option, true, some text⟩ : OptionUse Selection))).toList
  | _ => []

def findSpelled (chars : List Char) : Option (OptionUse Selection) :=
  let isShort := chars[1]? != some '-'
  match grammar.find? (String.ofList chars) with
  | some option => some ⟨option, isShort, none⟩
  | none =>
      match splitSign chars with
      | (_, none) => none
      | (beginning, attachment) =>
          (grammar.find? (String.ofList beginning)).map fun option => ⟨option, isShort, attachment⟩

def classifyDashed (text : String) : Except Stop (Word Selection) :=
  let chars := text.toList
  match grammar.findSpelled chars with
  | some found => .ok (.option text found)
  | none =>
      match grammar.candidates chars with
      | [(_, found)] => .ok (.option text found)
      | [] =>
          .ok (if isNegativeNumber chars || chars.contains ' ' then .operand text
            else .unknownOption text)
      | several => .error (.usage grammar.program (.ambiguous text (several.map Prod.fst)))

def classifyWord (text : String) : Except Stop (Word Selection) :=
  match text.toList with
  | '-' :: _ :: _ => grammar.classifyDashed text
  | _ => .ok (.operand text)

/-- The words of a command line; behind the separator all are operands. -/
def classify : List String → Except Stop (List (Word Selection))
  | [] => .ok []
  | text :: rest =>
      if text = separatorText then .ok (.separator :: rest.map .operand)
      else do
        let word ← grammar.classifyWord text
        return word :: (← classify rest)

def usage (operands : String) : String :=
  let shown (option : OptionSpec Selection) : String :=
    "[" ++ option.spellings.headD "" ++ (if option.takesText then " TEXT" else "") ++ "]"
  " ".intercalate (["usage:", grammar.program] ++ grammar.options.map shown ++ [operands]) ++ "\n"

/-! ### Options in one word -/

/-- The options of one word: some that take no text, and a last one with the text attached to
it. -/
structure Bundle (Selection : Type) where
  flags : List (OptionSpec Selection)
  last : OptionSpec Selection
  text : Option String

def argumentStop (option : OptionSpec Selection) (fault : ArgumentFault) : Stop :=
  .usage grammar.program (.argument option.name fault)

/-- Takes apart what is attached to an option. An option with a text takes it all; behind a short
one without, every letter has to be an option of its own. -/
def unbundle (option : OptionSpec Selection) (short : Bool) :
    List Char → Except Stop (Bundle Selection)
  | [] =>
      if option.takesText then .ok ⟨[], option, some ""⟩
      else .error (grammar.argumentStop option (.unexpectedText ""))
  | letter :: rest =>
      let text := String.ofList (letter :: rest)
      if option.takesText then .ok ⟨[], option, some text⟩
      else match short, grammar.find? (String.ofList ['-', letter]), rest with
        | true, some next, [] => .ok ⟨[option], next, none⟩
        | true, some next, rest =>
            (unbundle next true rest).map fun bundle =>
              { bundle with flags := option :: bundle.flags }
        | _, _, _ => .error (grammar.argumentStop option (.unexpectedText text))

def bundle (found : OptionUse Selection) : Except Stop (Bundle Selection) :=
  match found.attachment with
  | none => .ok ⟨[], found.option, none⟩
  | some chars => grammar.unbundle found.option found.short chars

def apply (selection : Selection) (option : OptionSpec Selection) (text : Option String) :
    Except Stop Selection :=
  match option.effect, text with
  | .flag set, _ => .ok (set selection)
  | .text set, some text => (set text selection).mapError (grammar.argumentStop option)
  | .text _, none => .error (grammar.argumentStop option .missingText)
  | .help, _ => .error (.help grammar.program)

def applyBundle (selection : Selection) (bundle : Bundle Selection) : Except Stop Selection := do
  let selection ← bundle.flags.foldlM (fun selection flag => grammar.apply selection flag none)
    selection
  grammar.apply selection bundle.last bundle.text

/-! ### The whole command line -/

/-- What a command line selects, its operands, and the words that have no place. -/
structure Reading (Selection : Type) where
  selection : Selection
  operands : Option (List String)
  unrecognized : List String

/-- Takes a run of operands; only the first run counts, and without its separator. -/
def takeRun (reading : Reading Selection) (run : List String) : Reading Selection :=
  match grammar.operands, reading.operands with
  | .firstRun, none => { reading with operands := some (run.erase separatorText) }
  | _, _ => { reading with unrecognized := reading.unrecognized ++ run }

def takesRest (words : List (Word Selection)) : Bool :=
  grammar.operands = .everythingAfter && words.any fun word =>
    match word with
    | .operand _ => true
    | _ => false

/-- Reads the words of a command line one after the other. An option without its text takes the
next word, if that is an operand. -/
def readWords (reading : Reading Selection) :
    List (Word Selection) → Except Stop (Reading Selection)
  | [] => .ok reading
  | .unknownOption text :: rest =>
      readWords { reading with unrecognized := reading.unrecognized ++ [text] } rest
  | .option _ found :: rest =>
      match grammar.bundle found with
      | .error stop => .error stop
      | .ok bundle =>
          match bundle.last.takesText && bundle.text.isNone, rest with
          | true, .operand text :: rest =>
              match grammar.applyBundle reading.selection { bundle with text := some text } with
              | .error stop => .error stop
              | .ok selection => readWords { reading with selection } rest
          | true, _ => .error (grammar.argumentStop bundle.last .missingText)
          | false, rest =>
              match grammar.applyBundle reading.selection bundle with
              | .error stop => .error stop
              | .ok selection => readWords { reading with selection } rest
  | first :: rest =>
      if grammar.takesRest (first :: rest) then
        .ok { reading with operands := some ((first :: rest).map Word.text) }
      else
        let run := first :: rest.takeWhile fun word => !word.isOption
        readWords (grammar.takeRun reading (run.map Word.text))
          (rest.dropWhile fun word => !word.isOption)
termination_by words => words.length
decreasing_by
  all_goals simp only [List.length_cons]
  · omega
  · omega
  · omega
  · have := (List.dropWhile_sublist (p := fun word : Word Selection => !word.isOption)
      (l := rest)).length_le
    omega

def read (start : Selection) (words : List String) : Except Stop (Reading Selection) := do
  grammar.readWords ⟨start, none, []⟩ (← grammar.classify words)

end Grammar

end RecordDocs.Command
