import LoxLexis.Text.Basic

/-!
# Symbols

The punctuation and the operators of Lox. Each symbol has one spelling and one name, and
no two symbols share theirs (`Symbol.spelling_injective`, `Symbol.ofName?_name`). A
character stands for at most one symbol, and four of these symbols grow when an equals
sign follows.
-/

namespace LoxLexis

/-- A punctuation mark or an operator. -/
inductive Symbol
  | leftParen
  | rightParen
  | leftBrace
  | rightBrace
  | comma
  | dot
  | minus
  | plus
  | semicolon
  | star
  | slash
  | bang
  | bangEqual
  | equal
  | equalEqual
  | less
  | lessEqual
  | greater
  | greaterEqual
  deriving DecidableEq, Repr

namespace Symbol

/-- The text a symbol is written as. -/
def spelling : Symbol → Text
  | leftParen => ['(']
  | rightParen => [')']
  | leftBrace => ['\x7b']
  | rightBrace => ['\x7d']
  | comma => [',']
  | dot => ['.']
  | minus => ['-']
  | plus => ['+']
  | semicolon => [';']
  | star => ['*']
  | slash => ['/']
  | bang => ['!']
  | bangEqual => ['!', '=']
  | equal => ['=']
  | equalEqual => ['=', '=']
  | less => ['<']
  | lessEqual => ['<', '=']
  | greater => ['>']
  | greaterEqual => ['>', '=']

/-- The name a symbol has in a listing. -/
def name : Symbol → Text
  | leftParen => "LEFT_PAREN".toList
  | rightParen => "RIGHT_PAREN".toList
  | leftBrace => "LEFT_BRACE".toList
  | rightBrace => "RIGHT_BRACE".toList
  | comma => "COMMA".toList
  | dot => "DOT".toList
  | minus => "MINUS".toList
  | plus => "PLUS".toList
  | semicolon => "SEMICOLON".toList
  | star => "STAR".toList
  | slash => "SLASH".toList
  | bang => "BANG".toList
  | bangEqual => "BANG_EQUAL".toList
  | equal => "EQUAL".toList
  | equalEqual => "EQUAL_EQUAL".toList
  | less => "LESS".toList
  | lessEqual => "LESS_EQUAL".toList
  | greater => "GREATER".toList
  | greaterEqual => "GREATER_EQUAL".toList

/-- The symbol that a character is on its own. -/
def ofChar? : Char → Option Symbol
  | '(' => some leftParen
  | ')' => some rightParen
  | '\x7b' => some leftBrace
  | '\x7d' => some rightBrace
  | ',' => some comma
  | '.' => some dot
  | '-' => some minus
  | '+' => some plus
  | ';' => some semicolon
  | '*' => some star
  | '/' => some slash
  | '!' => some bang
  | '=' => some equal
  | '<' => some less
  | '>' => some greater
  | _ => none

/-- The symbol that a symbol becomes when an equals sign follows it. -/
def withEqual? : Symbol → Option Symbol
  | bang => some bangEqual
  | equal => some equalEqual
  | less => some lessEqual
  | greater => some greaterEqual
  | _ => none

/-- Every symbol once. -/
def all : List Symbol :=
  [leftParen, rightParen, leftBrace, rightBrace, comma, dot, minus, plus, semicolon, star, slash,
    bang, bangEqual, equal, equalEqual, less, lessEqual, greater, greaterEqual]

/-- The symbol of a given name. -/
def ofName? (text : Text) : Option Symbol :=
  all.find? (fun symbol => symbol.name = text)

@[simp] theorem ofName?_name (symbol : Symbol) : ofName? symbol.name = some symbol := by
  cases symbol <;> decide

theorem spelling_injective (left right : Symbol) (same : left.spelling = right.spelling) :
    left = right := by
  cases left <;> cases right <;> simp_all [spelling]

/-- A character that is a symbol is the whole spelling of that symbol. -/
theorem spelling_of_ofChar? {character : Char} {symbol : Symbol}
    (found : ofChar? character = some symbol) : symbol.spelling = [character] := by
  unfold ofChar? at found
  split at found <;> simp only [Option.some.injEq, reduceCtorEq] at found <;>
    subst found <;> rfl

/-- A grown symbol is spelled with an equals sign after the first one. -/
theorem spelling_of_withEqual? {short long : Symbol} (grown : short.withEqual? = some long) :
    long.spelling = short.spelling ++ ['='] := by
  cases short <;> simp only [withEqual?, Option.some.injEq, reduceCtorEq] at grown <;>
    subst grown <;> rfl

end Symbol

end LoxLexis
