import LoxLexis.Position
import LoxLexis.Token.Kind

/-!
# Tokens

A token records its kind, the text it was written as, the value it carries, and where
it stands. A listing shows one token per line.
-/

namespace LoxLexis

/-- A piece of a source that has a meaning of its own. -/
structure Token where
  /-- What the token is. -/
  kind : Kind
  /-- The text the token was written as, empty at the end of the source. -/
  lexeme : Text
  /-- The value of a string literal, without its quotes. -/
  literal : Option Text
  /-- The line of the token's first character. -/
  line : Nat
  /-- The bytes of the source that the token takes. -/
  span : Span
  deriving DecidableEq, Repr

namespace Token

/-- The token that ends a source, empty at the place where the source ends. -/
def endOfFile (position : Position) : Token where
  kind := .endOfFile
  lexeme := []
  literal := none
  line := position.line
  span := ⟨position.offset, position.offset⟩

/-- A token of one line of a listing: its name, its lexeme, and its value or `null`. -/
def display (token : Token) : Text :=
  token.kind.name ++ ' ' :: token.lexeme ++ ' ' :: token.literal.getD "null".toList

/-- The token moved further down a source. -/
def shift (token : Token) (bytes lines : Nat) : Token :=
  { token with line := token.line + lines, span := token.span.shift bytes }

/-- What two tokens share when they say the same thing at different places. -/
def content (token : Token) : Kind × Text × Option Text :=
  (token.kind, token.lexeme, token.literal)

/-- Moving a token does not change what a listing shows of it. -/
@[simp] theorem display_shift (token : Token) (bytes lines : Nat) :
    (token.shift bytes lines).display = token.display := rfl

/-- The listing of tokens, one to a line. -/
def listing (tokens : List Token) : Text :=
  Text.ofLines (tokens.map display)

@[simp] theorem listing_append (left right : List Token) :
    listing (left ++ right) = listing left ++ listing right := by
  simp [listing]

@[simp] theorem listing_map_shift (tokens : List Token) (bytes lines : Nat) :
    listing (tokens.map (shift · bytes lines)) = listing tokens := by
  simp [listing, Function.comp_def]

end Token

end LoxLexis
