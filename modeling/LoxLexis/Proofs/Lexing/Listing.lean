import LoxLexis.Proofs.Lexing.Layout
import Mathlib.Data.List.Forall2

/-!
# Listings determine what they list

A listing puts one line after the other without any mark of its own, and the value of a
string may hold newlines and whole lines of another listing. Still the front of a listing
shows where its first line ends: the name of a kind holds no space, a symbol is always
listed the same, and a string is listed between quotes that its value does not hold
(`Token.shown_append_inj`). So two sources with the same listing hold tokens that say the
same, one by one (`listing_lex_eq_iff`).
-/

namespace LoxLexis

/-- No name of a kind has a space. -/
theorem Kind.space_not_mem_name (kind : Kind) : ' ' ∉ kind.name := by
  cases kind with
  | symbol mark => cases mark <;> decide
  | string => decide
  | endOfFile => decide

namespace Text

/-- Equal texts have equal parts before and behind the first of a character. -/
theorem append_cons_inj {stop : Char} {left right following other : Text} (leftFree : stop ∉ left)
    (rightFree : stop ∉ right) (same : left ++ stop :: following = right ++ stop :: other) :
    left = right ∧ following = other := by
  induction left generalizing right with
  | nil =>
      cases right with
      | nil => exact ⟨rfl, (List.cons.inj same).2⟩
      | cons first rest => exact absurd (List.mem_cons.mpr (.inl (List.cons.inj same).1)) rightFree
  | cons first rest ih =>
      cases right with
      | nil =>
          exact absurd (List.mem_cons.mpr (.inl (List.cons.inj same).1.symm)) leftFree
      | cons second others =>
          obtain ⟨sameFirst, sameRest⟩ := List.cons.inj same
          obtain ⟨agree, behind⟩ := ih (List.not_mem_of_not_mem_cons leftFree)
            (List.not_mem_of_not_mem_cons rightFree) sameRest
          exact ⟨sameFirst ▸ agree ▸ rfl, behind⟩

end Text

namespace Token

/-- What a line of a listing shows, given what the token says. -/
def shown (content : Kind × Text × Option Text) : Text :=
  content.1.name ++ ' ' :: content.2.1 ++ ' ' :: content.2.2.getD "null".toList

/-- What a token of a source can say. -/
inductive Said : Kind × Text × Option Text → Prop
  | item (item : Item) : Said item.content
  | ending : Said (.endOfFile, [], none)

/-- Every token of a source says what a token of a source can say. -/
theorem said_of_mem_lex {source : Text} {token : Token} (member : token ∈ (lex source).tokens) :
    Said token.content := by
  obtain ⟨items, same⟩ := exists_items source
  have contents : (lex source).tokens.map content =
      items.map Item.content ++ [(.endOfFile, [], none)] := by
    rw [← same, map_content_lex, dropLast_tokens, Word.map_content_tokens]
  have listed := contents ▸ List.mem_map_of_mem (f := content) member
  rcases List.mem_append.mp listed with among | last
  · obtain ⟨item, -, found⟩ := List.mem_map.mp among
    exact found ▸ .item item
  · exact List.mem_singleton.mp last ▸ .ending

variable {left right : Kind × Text × Option Text} {following other : Text}

/-- Of what a source can say, each kind is said in one way, but strings by their values. -/
theorem Said.eq_of_kind (leftSaid : Said left) (rightSaid : Said right)
    (kinds : left.1 = right.1) :
    left = right ∨ ∃ value another : Text, '"' ∉ value ∧ '"' ∉ another ∧
      left = (.string, '"' :: value ++ ['"'], some value) ∧
      right = (.string, '"' :: another ++ ['"'], some another) := by
  cases leftSaid with
  | ending =>
      cases rightSaid with
      | ending => exact .inl rfl
      | item item => cases item <;> cases kinds
  | item item =>
      cases rightSaid with
      | ending => cases item <;> cases kinds
      | item another =>
          cases item with
          | symbol mark =>
              cases another with
              | symbol same => exact .inl (by rw [Kind.symbol.inj kinds])
              | string value noQuote => cases kinds
          | string value noQuote =>
              cases another with
              | symbol mark => cases kinds
              | string second stillNoQuote =>
                  exact .inr ⟨value, second, noQuote, stillNoQuote, rfl, rfl⟩

/-- The first line of a listing is known from the listing, wherever newlines stand. -/
theorem shown_append_inj (leftSaid : Said left) (rightSaid : Said right)
    (same : shown left ++ '\n' :: following = shown right ++ '\n' :: other) :
    left = right ∧ following = other := by
  have named : ∀ content : Kind × Text × Option Text, ∀ rest : Text,
      shown content ++ '\n' :: rest = content.1.name ++
        ' ' :: (content.2.1 ++ ' ' :: content.2.2.getD "null".toList ++ '\n' :: rest) := by
    simp [shown]
  have apart := same
  rw [named, named] at apart
  obtain ⟨names, rests⟩ := Text.append_cons_inj left.1.space_not_mem_name
    right.1.space_not_mem_name apart
  have kinds := Kind.name_injective _ _ names
  rcases leftSaid.eq_of_kind rightSaid kinds with
    rfl | ⟨value, another, noQuote, alsoNone, rfl, rfl⟩
  · exact ⟨rfl, (List.cons.inj (List.append_cancel_left same)).2⟩
  · -- The value is read up to the quote that closes the lexeme, before it is shown once more.
    simp only [List.cons_append, List.append_assoc, List.nil_append, List.cons.injEq,
      true_and] at rests
    obtain ⟨rfl, -⟩ := Text.append_cons_inj noQuote alsoNone rests
    exact ⟨rfl, (List.cons.inj (List.append_cancel_left same)).2⟩

/-- A listing is made of what is shown of each token. -/
theorem listing_eq_ofLines (tokens : List Token) :
    listing tokens = Text.ofLines ((tokens.map content).map shown) := by
  rw [listing, List.map_map]
  rfl

/-- What a listing shows says the same as another listing only of the same. -/
theorem ofLines_shown_inj {lefts rights : List (Kind × Text × Option Text)}
    (leftSaid : ∀ content ∈ lefts, Said content) (rightSaid : ∀ content ∈ rights, Said content)
    (same : Text.ofLines (lefts.map shown) = Text.ofLines (rights.map shown)) :
    lefts = rights := by
  induction lefts generalizing rights with
  | nil =>
      cases rights with
      | nil => rfl
      | cons right others => simp at same
  | cons left others ih =>
      cases rights with
      | nil => simp at same
      | cons right rest =>
          rw [List.forall_mem_cons] at leftSaid rightSaid
          rw [List.map_cons, List.map_cons, Text.ofLines_cons, Text.ofLines_cons] at same
          obtain ⟨rfl, behind⟩ := shown_append_inj leftSaid.1 rightSaid.1 same
          rw [ih leftSaid.2 rightSaid.2 behind]

/-- Two lists of tokens say the same when they agree in kind, lexeme and value, one by one. -/
theorem map_content_eq_iff {lefts rights : List Token} :
    lefts.map content = rights.map content ↔
      List.Forall₂ (fun left right => left.kind = right.kind ∧ left.lexeme = right.lexeme ∧
        left.literal = right.literal) lefts rights := by
  rw [← List.forall₂_eq_eq_eq, List.forall₂_map_left_iff, List.forall₂_map_right_iff]
  simp only [content, Prod.mk.injEq]

end Token

/-- **Listings determine what they list.** Two sources have the same listing exactly when
they hold equally many tokens and these agree, one by one, in kind, lexeme and literal. -/
theorem listing_lex_eq_iff (source other : Text) :
    Token.listing (lex source).tokens = Token.listing (lex other).tokens ↔
      List.Forall₂ (fun left right => left.kind = right.kind ∧ left.lexeme = right.lexeme ∧
        left.literal = right.literal) (lex source).tokens (lex other).tokens := by
  have said : ∀ text : Text, ∀ content ∈ (lex text).tokens.map Token.content,
      Token.Said content := by
    intro text
    rw [List.forall_mem_map]
    exact fun token => Token.said_of_mem_lex
  rw [Token.listing_eq_ofLines, Token.listing_eq_ofLines, ← Token.map_content_eq_iff]
  constructor
  · exact Token.ofLines_shown_inj (said source) (said other)
  · intro same
    rw [same]

end LoxLexis
