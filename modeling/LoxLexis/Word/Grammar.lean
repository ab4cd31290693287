import LoxLexis.Word.Basic

/-!
# The grammar of words

Which word stands at a place of a text depends on the word and on the text that follows
it: `Word.Fits` says when a word is whole there, and `Word.Cut` cuts a text into words
that are whole where they stand. A word is as long as it can be. Both say what is allowed
without saying how a word is found.
-/

namespace LoxLexis

namespace Word

/-- A symbol is whole where it stands when no longer symbol that starts with it stands
there, and two slashes are no symbols. -/
def SymbolFits (mark : Symbol) (following : Text) : Prop :=
  (∀ long : Symbol, mark.spelling <+: long.spelling →
    long.spelling <+: mark.spelling ++ following → long = mark) ∧
  (mark = .slash → following.head? ≠ some '/')

/-- A character starts no word that has a meaning: it is neither blank nor a quote nor the
first character of a symbol. -/
def IsStray (character : Char) : Prop :=
  character ∉ [' ', '\r', '\t', '\n'] ∧ character ≠ '"' ∧
    ∀ mark : Symbol, mark.spelling.head? ≠ some character

/-- A word is whole where it stands before a text that follows it. -/
def Fits (word : Word) (following : Text) : Prop :=
  match word with
  | symbol mark => SymbolFits mark following
  | string value => '"' ∉ value
  | openString value => '"' ∉ value ∧ following = []
  | comment content => '\n' ∉ content ∧ (following = [] ∨ following.head? = some '\n')
  | blank character => character ∈ [' ', '\r', '\t', '\n']
  | stray character => IsStray character

/-- A text is cut into words that are whole where they stand. -/
inductive Cut : Text → List Word → Prop
  /-- The empty text has no words. -/
  | nil : Cut [] []
  /-- A whole word comes before a text that is cut. -/
  | cons {word : Word} {following : Text} {others : List Word} :
      word.Fits following → Cut following others →
        Cut (word.spelling ++ following) (word :: others)

/-- The words of a cut make up the text. -/
theorem Cut.flatMap_spelling {text : Text} {words : List Word} (cut : Cut text words) :
    words.flatMap spelling = text := by
  induction cut with
  | nil => rfl
  | cons _ _ ih => rw [List.flatMap_cons, ih]

end Word

end LoxLexis
