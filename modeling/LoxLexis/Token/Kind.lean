import LoxLexis.Token.Symbol

/-!
# Kinds of tokens

A token is a symbol, a string literal, or the end of the source. Only string literals
carry a value.
-/

namespace LoxLexis

/-- What a token is. -/
inductive Kind
  /-- A punctuation mark or an operator. -/
  | symbol (symbol : Symbol)
  /-- A string literal. -/
  | string
  /-- The end of the source. -/
  | endOfFile
  deriving DecidableEq, Repr

namespace Kind

/-- The name of a kind, in capitals. -/
def name : Kind → Text
  | symbol mark => mark.name
  | string => "STRING".toList
  | endOfFile => "EOF".toList

/-- The kind as it is named to a reader: a symbol by its spelling in quotes. -/
def description : Kind → Text
  | symbol mark => '\'' :: mark.spelling ++ ['\'']
  | string => "string literal".toList
  | endOfFile => "end of file".toList

/-- Whether the kind marks the end of the source. -/
def isEndOfFile (kind : Kind) : Bool :=
  kind = endOfFile

/-- Whether tokens of the kind carry a value. -/
def hasLiteral (kind : Kind) : Bool :=
  kind = string

/-- The kind of a given name. -/
def ofName? (text : Text) : Option Kind :=
  if text = string.name then some string
  else if text = endOfFile.name then some endOfFile
  else (Symbol.ofName? text).map symbol

/-- A kind is found again by its name. -/
@[simp] theorem ofName?_name (kind : Kind) : ofName? kind.name = some kind := by
  cases kind with
  | symbol mark => cases mark <;> decide
  | string => decide
  | endOfFile => decide

/-- Kinds are told apart by their names. -/
theorem name_injective (left right : Kind) (same : left.name = right.name) : left = right := by
  have found := ofName?_name left
  rw [same, ofName?_name] at found
  exact (Option.some.inj found).symm

end Kind

end LoxLexis
