import RecordDocs.Annotation.Token

/-!
# Annotation expressions

An expression is a name, a constant, a list or tuple, an alternative of two expressions, or an
expression followed by an attribute, a subscript or arguments. Words that are reserved are no
names, and adjacent texts are one text.
-/

namespace RecordDocs.Annotation

inductive Expression where
  | name (text : String)
  | constant (value : Constant)
  | attribute (owner : Expression) (member : String)
  | subscript (owner index : Expression)
  | call (function : Expression) (arguments : List Expression)
  | either (left right : Expression)
  | negative (operand : Expression)
  | positive (operand : Expression)
  | list (items : List Expression)
  | tuple (items : List Expression)

def reservedConstant? : String → Option Constant
  | "None" => some .null
  | "True" => some (.flag true)
  | "False" => some (.flag false)
  | _ => none

/-- A text goes on in the texts that follow it directly. -/
def joinTexts (first : Constant) : List Token → Option (Constant × List Token)
  | .constant (.text more) :: rest =>
      match first with
      | .text text => joinTexts (.text (text ++ more)) rest
      | .octets _ => none
      | _ => some (first, .constant (.text more) :: rest)
  | .constant (.octets more) :: rest =>
      match first with
      | .octets octets => joinTexts (.octets (octets ++ more)) rest
      | .text _ => none
      | _ => some (first, .constant (.octets more) :: rest)
  | rest => some (first, rest)

namespace Expression

mutual

def readEither : Nat → List Token → Option (Expression × List Token)
  | 0, _ => none
  | fuel + 1, tokens => do
      let (first, rest) ← readSigned fuel tokens
      readAlternatives fuel first rest

def readAlternatives : Nat → Expression → List Token → Option (Expression × List Token)
  | 0, _, _ => none
  | fuel + 1, left, .sign '|' :: rest => do
      let (right, rest) ← readSigned fuel rest
      readAlternatives fuel (.either left right) rest
  | _ + 1, left, rest => some (left, rest)

def readSigned : Nat → List Token → Option (Expression × List Token)
  | 0, _ => none
  | fuel + 1, .sign '-' :: rest =>
      (readSigned fuel rest).map fun (operand, rest) => (.negative operand, rest)
  | fuel + 1, .sign '+' :: rest =>
      (readSigned fuel rest).map fun (operand, rest) => (.positive operand, rest)
  | fuel + 1, tokens => do
      let (atom, rest) ← readAtom fuel tokens
      readTrailers fuel atom rest

def readTrailers : Nat → Expression → List Token → Option (Expression × List Token)
  | 0, _, _ => none
  | fuel + 1, owner, .sign '.' :: .name member :: rest =>
      readTrailers fuel (.attribute owner member) rest
  | fuel + 1, owner, .sign '[' :: rest => do
      let (items, isTuple, rest) ← readItems fuel ']' rest
      match items, isTuple with
      | [], _ => none
      | [index], false => readTrailers fuel (.subscript owner index) rest
      | items, _ => readTrailers fuel (.subscript owner (.tuple items)) rest
  | fuel + 1, owner, .sign '(' :: rest => do
      let (arguments, _, rest) ← readItems fuel ')' rest
      readTrailers fuel (.call owner arguments) rest
  | _ + 1, owner, rest => some (owner, rest)

def readAtom : Nat → List Token → Option (Expression × List Token)
  | 0, _ => none
  | _ + 1, .name text :: rest => some (.name text, rest)
  | _ + 1, .reserved word :: rest =>
      (reservedConstant? word).map fun value => (.constant value, rest)
  | _ + 1, .constant value :: rest =>
      (joinTexts value rest).map fun (value, rest) => (.constant value, rest)
  | fuel + 1, .sign '[' :: rest =>
      (readItems fuel ']' rest).map fun (items, _, rest) => (.list items, rest)
  | fuel + 1, .sign '(' :: rest => do
      let (items, isTuple, rest) ← readItems fuel ')' rest
      match items, isTuple with
      | [inner], false => return (inner, rest)
      | items, _ => return (.tuple items, rest)
  | _ + 1, _ => none

/-- Items up to a closing bracket. Also says whether there is a comma among them, or nothing. -/
def readItems : Nat → Char → List Token → Option (List Expression × Bool × List Token)
  | 0, _, _ => none
  | fuel + 1, close, tokens =>
      if tokens.head? = some (.sign close) then some ([], true, tokens.drop 1)
      else do
        let (item, rest) ← readEither fuel tokens
        match rest with
        | .sign ',' :: rest => do
            let (items, _, rest) ← readItems fuel close rest
            return (item :: items, true, rest)
        | .sign other :: rest => if other = close then return ([item], false, rest) else none
        | _ => none

end

/-- Reads an expression that fills the whole text; expressions separated by commas are a tuple. -/
def read? (text : String) : Option Expression := do
  let tokens ← tokens text
  let enclosed := tokens ++ [.sign ')']
  match ← readItems (5 * enclosed.length + 5) ')' enclosed with
  | ([], _, _) => none
  | ([single], false, []) => return single
  | (items, true, []) => return .tuple items
  | _ => none

/-! ### Equality -/

mutual

def isSame : Expression → Expression → Bool
  | .name first, .name second => first == second
  | .constant first, .constant second => first = second
  | .attribute owner member, .attribute other another => owner.isSame other && member == another
  | .subscript owner index, .subscript other place => owner.isSame other && index.isSame place
  | .call function arguments, .call other others =>
      function.isSame other && areSame arguments others
  | .either left right, .either other another => left.isSame other && right.isSame another
  | .negative operand, .negative other => operand.isSame other
  | .positive operand, .positive other => operand.isSame other
  | .list items, .list others => areSame items others
  | .tuple items, .tuple others => areSame items others
  | _, _ => false
termination_by structural first => first

def areSame : List Expression → List Expression → Bool
  | [], [] => true
  | first :: rest, second :: others => first.isSame second && areSame rest others
  | _, _ => false
termination_by structural items => items

end

mutual

theorem isSame_iff : ∀ {first second : Expression}, first.isSame second = true ↔ first = second
  | .name _, second => by cases second <;> simp [isSame]
  | .constant _, second => by cases second <;> simp [isSame]
  | .attribute owner _, second => by cases second <;> simp [isSame, isSame_iff]
  | .subscript owner index, second => by cases second <;> simp [isSame, isSame_iff]
  | .call function arguments, second => by cases second <;> simp [isSame, isSame_iff, areSame_iff]
  | .either left right, second => by cases second <;> simp [isSame, isSame_iff]
  | .negative operand, second => by cases second <;> simp [isSame, isSame_iff]
  | .positive operand, second => by cases second <;> simp [isSame, isSame_iff]
  | .list items, second => by cases second <;> simp [isSame, areSame_iff]
  | .tuple items, second => by cases second <;> simp [isSame, areSame_iff]

theorem areSame_iff : ∀ {items others : List Expression},
    areSame items others = true ↔ items = others
  | [], others => by cases others <;> simp [areSame]
  | first :: rest, others => by
      cases others <;> simp [areSame, isSame_iff, areSame_iff]

end

instance : DecidableEq Expression :=
  fun _ _ => decidable_of_iff _ isSame_iff

end Expression

end RecordDocs.Annotation
