import LoxLexis.Proofs.Lexing.Joint

/-!
# Writing tokens down and reading them again

Symbols and strings may be written down with any blanks and comments between them, as long
as something stands between neighbours (`Layout`). Reading the text again meets no fault
(`Layout.faults_text`) and gives what was written, with one exception: a slash directly before
a comment is read as part of the comment (`Layout.isReadBack_iff`). What a source holds can be
written down too, with single spaces in between; this normal form of the source holds the
same, and is its own normal form (`lex_layout`).
-/

namespace LoxLexis

/-! ### What is written -/

/-- A token to be written down: a symbol, or a string whose value holds no quote. -/
inductive Item
  /-- A symbol, in its only spelling. -/
  | symbol (mark : Symbol)
  /-- A string with such a value. -/
  | string (value : Text) (noQuote : '"' ∉ value)
  deriving DecidableEq

/-- What may stand between tokens: a blank, or a comment with the newline that ends it. -/
inductive Separator
  /-- A single blank character. -/
  | blank (character : Char) (isBlank : character ∈ [' ', '\r', '\t', '\n'])
  /-- A comment on one line, together with its newline. -/
  | comment (content : Text) (oneLine : '\n' ∉ content)
  deriving DecidableEq

namespace Item

/-- An item as it stands in a text: a string stands between quotes. -/
def spelling : Item → Text
  | symbol mark => mark.spelling
  | string value _ => '"' :: value ++ ['"']

/-- What a token that is written as the item says. -/
def content : Item → Kind × Text × Option Text
  | symbol mark => (.symbol mark, mark.spelling, none)
  | string value noQuote => (.string, (string value noQuote).spelling, some value)

/-- The word that the spelling of an item is, when nothing behind it makes it longer. -/
def word : Item → Word
  | symbol mark => .symbol mark
  | string value _ => .string value

theorem spelling_word (item : Item) : item.word.spelling = item.spelling := by
  cases item <;> rfl

theorem content?_word (item : Item) : item.word.content? = some item.content := by
  cases item <;> rfl

theorem isFault_word (item : Item) : item.word.isFault = false := by
  cases item <;> rfl

/-- An item is whole unless an equals sign follows, or a slash follows a slash. -/
theorem fits {item : Item} {following : Text} (ungrown : following.head? ≠ some '=')
    (single : item = symbol .slash → following.head? ≠ some '/') : item.word.Fits following := by
  cases item with
  | symbol mark =>
      apply Word.fits_symbol_iff.mpr
      exact ⟨fun _ => ungrown, fun slash => single (congrArg symbol slash)⟩
  | string value noQuote => exact noQuote

end Item

namespace Separator

/-- A separator as it stands in a text: a comment begins with two slashes. -/
def spelling : Separator → Text
  | blank character _ => [character]
  | comment content _ => '/' :: '/' :: content ++ ['\n']

/-- The words of a separator: the newline behind a comment is a word of its own. -/
def words : Separator → List Word
  | blank character _ => [.blank character]
  | comment content _ => [.comment content, .blank '\n']

/-- The words of a separator are spelled like the separator. -/
theorem flatMap_spelling_words (separator : Separator) :
    separator.words.flatMap Word.spelling = separator.spelling := by
  cases separator <;> simp [words, spelling, Word.spelling]

/-- The words of separators are spelled like the separators. -/
theorem flatMap_spelling_flatMap_words (separators : List Separator) :
    (separators.flatMap words).flatMap Word.spelling = separators.flatMap spelling := by
  rw [List.flatMap_assoc]
  exact List.flatMap_congr fun separator _ => separator.flatMap_spelling_words

/-- Separators say nothing. -/
theorem filterMap_content?_words (separators : List Separator) :
    (separators.flatMap words).filterMap Word.content? = [] := by
  rw [List.filterMap_flatMap, List.flatMap_eq_nil_iff]
  intro separator _
  cases separator <;> rfl

/-- No word of a separator is a fault. -/
theorem isFault_of_mem_words {separators : List Separator} {word : Word}
    (member : word ∈ separators.flatMap words) : word.isFault = false := by
  obtain ⟨separator, -, found⟩ := List.mem_flatMap.mp member
  cases separator with
  | blank character isBlank =>
      rw [List.mem_singleton.mp found]
      rfl
  | comment content oneLine =>
      rcases List.mem_cons.mp found with rfl | newline
      · rfl
      · rw [List.mem_singleton.mp newline]
        rfl

/-- The words of separators are whole whatever follows them. -/
theorem whole (separators : List Separator) (following : Text) :
    Word.WholeBefore (separators.flatMap words) following := by
  induction separators with
  | nil => trivial
  | cons separator others ih =>
      rw [List.flatMap_cons]
      refine Word.wholeBefore_append.mpr ⟨?_, ih⟩
      cases separator with
      | blank character isBlank => exact ⟨isBlank, trivial⟩
      | comment content oneLine => exact ⟨⟨oneLine, .inr rfl⟩, by simp [Word.Fits], trivial⟩

end Separator

/-- An item with what stands behind it. -/
structure Entry where
  /-- The item. -/
  item : Item
  /-- What stands between the item and the next one, or the end of the text. -/
  behind : List Separator

namespace Entry

/-- An entry as it stands in a text: its item, and then what stands behind it. -/
def spelling (entry : Entry) : Text :=
  entry.item.spelling ++ entry.behind.flatMap Separator.spelling

/-- Whether the item is a slash that a comment directly behind it makes part of itself. -/
def isSwallowed : Entry → Bool
  | ⟨.symbol .slash, .comment _ _ :: _⟩ => true
  | _ => false

/-- The words of an entry. A slash and a comment directly behind it are one comment, whose
content begins with a slash. -/
def words : Entry → List Word
  | ⟨.symbol .slash, .comment content _ :: others⟩ =>
      .comment ('/' :: content) :: .blank '\n' :: others.flatMap Separator.words
  | ⟨item, behind⟩ => item.word :: behind.flatMap Separator.words

/-- The words of an entry are spelled like the entry, even where a comment takes the slash. -/
theorem flatMap_spelling_words (entry : Entry) :
    entry.words.flatMap Word.spelling = entry.spelling := by
  unfold words spelling
  split
  · simp only [List.flatMap_cons, Separator.flatMap_spelling_flatMap_words]
    simp [Word.spelling, Item.spelling, Symbol.spelling, Separator.spelling]
  · rw [List.flatMap_cons, Separator.flatMap_spelling_flatMap_words, Item.spelling_word]

/-- The words of an entry are whole when something stands behind its item or nothing
follows. -/
theorem whole {entry : Entry} {following : Text} (apart : entry.behind = [] → following = []) :
    Word.WholeBefore entry.words following := by
  unfold words
  split
  · next content oneLine others =>
      have stillOneLine : '\n' ∉ '/' :: content := by simpa using oneLine
      exact ⟨⟨stillOneLine, .inr rfl⟩, by simp [Word.Fits], Separator.whole others following⟩
  · next item behind notSwallowed =>
      refine ⟨?_, Separator.whole behind following⟩
      rw [Separator.flatMap_spelling_flatMap_words]
      -- A comment behind a slash was the case before; nothing else here can join the item.
      cases behind with
      | nil =>
          rw [apart rfl]
          exact Item.fits (by simp) (by simp)
      | cons first others =>
          cases first with
          | blank character isBlank =>
              simp only [List.mem_cons, List.not_mem_nil, or_false] at isBlank
              apply Item.fits
              · rcases isBlank with rfl | rfl | rfl | rfl <;> simp [Separator.spelling]
              · rcases isBlank with rfl | rfl | rfl | rfl <;> simp [Separator.spelling]
          | comment content oneLine =>
              apply Item.fits
              · simp [Separator.spelling]
              · intro slash
                exact (notSwallowed content oneLine others slash rfl).elim

/-- An entry says what its item says, unless the item is swallowed. -/
theorem filterMap_content?_words (entry : Entry) :
    entry.words.filterMap Word.content? =
      if entry.isSwallowed then [] else [entry.item.content] := by
  unfold words
  split
  · next content oneLine others =>
      exact Separator.filterMap_content?_words others
  · next item behind notSwallowed =>
      have kept : isSwallowed ⟨item, behind⟩ = false := by
        unfold isSwallowed
        split
        · next content oneLine others same =>
            cases same
            exact (notSwallowed content oneLine others rfl rfl).elim
        · rfl
      rw [List.filterMap_cons, Item.content?_word, Separator.filterMap_content?_words, kept]
      rfl

/-- No word of an entry is a fault. -/
theorem isFault_of_mem_words {entry : Entry} {word : Word} (member : word ∈ entry.words) :
    word.isFault = false := by
  unfold words at member
  split at member
  · next content oneLine others =>
      rcases List.mem_cons.mp member with rfl | later
      · rfl
      · rcases List.mem_cons.mp later with rfl | among
        · rfl
        · exact Separator.isFault_of_mem_words among
  · next item behind _ =>
      rcases List.mem_cons.mp member with rfl | among
      · exact item.isFault_word
      · exact Separator.isFault_of_mem_words among

end Entry

/-- Items written down one after the other: something may stand before the first, and
something stands between neighbours. -/
structure Layout where
  /-- What stands before the first item. -/
  opening : List Separator
  /-- The items, each with what stands behind it. -/
  entries : List Entry
  /-- Something stands behind every item but the last. -/
  apart : ∀ entry ∈ entries.dropLast, entry.behind ≠ []

namespace Layout

/-- The text that a layout is. -/
def text (layout : Layout) : Text :=
  layout.opening.flatMap Separator.spelling ++ layout.entries.flatMap Entry.spelling

/-- The words of a layout, in which a slash may be part of the comment behind it. -/
def words (layout : Layout) : List Word :=
  layout.opening.flatMap Separator.words ++ layout.entries.flatMap Entry.words

/-- Whether reading a layout gives its items back, and the end of the source. -/
def IsReadBack (layout : Layout) : Prop :=
  (lex layout.text).faults = [] ∧
    (lex layout.text).tokens.map Token.content =
      layout.entries.map (fun entry => entry.item.content) ++ [(.endOfFile, [], none)]

/-- Whether no comment stands directly behind a slash. -/
def KeepsSlashes (layout : Layout) : Prop :=
  ∀ entry ∈ layout.entries, entry.isSwallowed = false

/-- The words of a layout are spelled like the layout. -/
theorem flatMap_spelling_words (layout : Layout) :
    layout.words.flatMap Word.spelling = layout.text := by
  rw [words, List.flatMap_append, Separator.flatMap_spelling_flatMap_words, List.flatMap_assoc,
    text]
  exact congrArg (_ ++ ·) (List.flatMap_congr fun entry _ => entry.flatMap_spelling_words)

/-- The words of entries are whole when something stands behind every item but the last. -/
theorem whole_entries {entries : List Entry}
    (apart : ∀ entry ∈ entries.dropLast, entry.behind ≠ []) :
    Word.WholeBefore (entries.flatMap Entry.words) [] := by
  induction entries with
  | nil => trivial
  | cons entry others ih =>
      rw [List.flatMap_cons]
      cases others with
      | nil =>
          exact Word.wholeBefore_append.mpr ⟨entry.whole fun _ => rfl, trivial⟩
      | cons next others =>
          rw [List.dropLast_cons_cons, List.forall_mem_cons] at apart
          exact Word.wholeBefore_append.mpr
            ⟨entry.whole fun nothing => absurd nothing apart.1, ih apart.2⟩

/-- The words of a layout are whole. -/
theorem whole (layout : Layout) : Word.WholeBefore layout.words [] :=
  Word.wholeBefore_append.mpr
    ⟨Separator.whole layout.opening _, whole_entries layout.apart⟩

/-- Reading the text of a layout finds its words. -/
theorem words_text (layout : Layout) : Word.words layout.text = layout.words := by
  rw [← layout.flatMap_spelling_words]
  exact layout.whole.words_eq

/-- Reading the text of a layout meets no fault. -/
theorem faults_text (layout : Layout) : (lex layout.text).faults = [] := by
  rw [lex_faults_eq, words_text]
  apply Word.faults_eq_nil
  intro word member
  rcases List.mem_append.mp member with among | among
  · exact Separator.isFault_of_mem_words among
  · obtain ⟨entry, -, found⟩ := List.mem_flatMap.mp among
    exact Entry.isFault_of_mem_words found

/-- Reading a layout gives back the items that no comment swallows. -/
theorem map_content_text (layout : Layout) :
    (lex layout.text).tokens.map Token.content =
      (layout.entries.filter fun entry => !entry.isSwallowed).map
          (fun entry => entry.item.content) ++
        [(.endOfFile, [], none)] := by
  rw [map_content_lex, words_text, words, List.filterMap_append,
    Separator.filterMap_content?_words, List.nil_append]
  refine congrArg (· ++ _) ?_
  induction layout.entries with
  | nil => rfl
  | cons entry others ih =>
      rw [List.flatMap_cons, List.filterMap_append, Entry.filterMap_content?_words, ih,
        List.filter_cons]
      cases entry.isSwallowed <;> rfl

/-- A layout is read back exactly when no comment stands directly behind a slash. -/
theorem isReadBack_iff (layout : Layout) : layout.IsReadBack ↔ layout.KeepsSlashes := by
  rw [IsReadBack, map_content_text]
  constructor
  · rintro ⟨-, same⟩
    have count := congrArg List.length (List.append_cancel_right same)
    rw [List.length_map, List.length_map, List.length_filter_eq_length_iff] at count
    intro entry member
    simpa using count entry member
  · intro keeps
    refine ⟨layout.faults_text, ?_⟩
    rw [List.filter_eq_self.mpr]
    intro entry member
    rw [keeps entry member]
    rfl

/-! ### Single spaces -/

/-- Items with a single space behind each but the last. -/
def spacedEntries : List Item → List Entry
  | [] => []
  | [item] => [⟨item, []⟩]
  | item :: next :: others => ⟨item, [.blank ' ' (by decide)]⟩ :: spacedEntries (next :: others)

theorem spacedEntries_ne_nil (item : Item) (others : List Item) :
    spacedEntries (item :: others) ≠ [] := by
  cases others <;> exact List.cons_ne_nil _ _

/-- A space stands behind every item but the last. -/
theorem apart_spacedEntries (items : List Item) :
    ∀ entry ∈ (spacedEntries items).dropLast, entry.behind ≠ [] := by
  fun_induction spacedEntries items with
  | case1 | case2 item => simp
  | case3 item next others ih =>
      rw [List.dropLast_cons_of_ne_nil (spacedEntries_ne_nil next others), List.forall_mem_cons]
      exact ⟨List.cons_ne_nil _ _, ih⟩

/-- Items written with single spaces between them, and nothing before or behind. -/
def spaced (items : List Item) : Layout where
  opening := []
  entries := spacedEntries items
  apart := apart_spacedEntries items

/-- Writing items with single spaces leaves the items as they are. -/
theorem map_content_spaced (items : List Item) :
    (spaced items).entries.map (fun entry => entry.item.content) = items.map Item.content := by
  change (spacedEntries items).map _ = _
  fun_induction spacedEntries items with
  | case1 | case2 item => rfl
  | case3 item next others ih => exact congrArg (item.content :: ·) ih

/-- No comment stands behind a slash when items are written with single spaces. -/
theorem keepsSlashes_spaced (items : List Item) : (spaced items).KeepsSlashes := by
  change ∀ entry ∈ spacedEntries items, _
  fun_induction spacedEntries items with
  | case1 => simp
  | case2 item => simp [Entry.isSwallowed]
  | case3 item next others ih =>
      rw [List.forall_mem_cons]
      exact ⟨by simp [Entry.isSwallowed], ih⟩

/-- The text of items written with single spaces is their spellings with spaces between them. -/
theorem text_spaced (items : List Item) :
    (spaced items).text = [' '].intercalate (items.map Item.spelling) := by
  change (spacedEntries items).flatMap Entry.spelling = _
  fun_induction spacedEntries items with
  | case1 => rfl
  | case2 item => simp [Entry.spelling]
  | case3 item next others ih =>
      rw [List.flatMap_cons, ih]
      simp only [List.map_cons, List.intercalate_cons_cons]
      simp [Entry.spelling, Separator.spelling]

end Layout

/-- The lexemes of a source with single spaces between them. -/
def normalForm (source : Text) : Text :=
  [' '].intercalate ((lex source).tokens.dropLast.map Token.lexeme)

/-- What words say that are whole can be written down. -/
theorem Word.WholeBefore.exists_items {words : List Word} {following : Text}
    (whole : WholeBefore words following) :
    ∃ items : List Item, items.map Item.content = words.filterMap content? := by
  induction words with
  | nil => exact ⟨[], rfl⟩
  | cons word others ih =>
      obtain ⟨fits, rest⟩ := whole
      obtain ⟨items, same⟩ := ih rest
      cases word with
      | symbol mark => exact ⟨.symbol mark :: items, congrArg (_ :: ·) same⟩
      | string value => exact ⟨.string value fits :: items, congrArg (_ :: ·) same⟩
      | openString _ | comment _ | blank _ | stray _ => exact ⟨items, same⟩

/-- The tokens of a source before its end can be written down. -/
theorem exists_items (source : Text) :
    ∃ items : List Item,
      (lex source).tokens.dropLast.map Token.content = items.map Item.content := by
  obtain ⟨items, same⟩ := (Word.wholeBefore_words source).exists_items
  exact ⟨items, by rw [dropLast_tokens, Word.map_content_tokens, same]⟩

/-- The normal form of a source is what its tokens say, written with single spaces. -/
theorem normalForm_eq_text {source : Text} {items : List Item}
    (same : (lex source).tokens.dropLast.map Token.content = items.map Item.content) :
    normalForm source = (Layout.spaced items).text := by
  have lexemes := congrArg (List.map fun content => content.2.1) same
  rw [List.map_map, List.map_map] at lexemes
  have spellings : items.map ((fun content => content.2.1) ∘ Item.content) =
      items.map Item.spelling := by
    apply List.map_congr_left
    intro item _
    cases item <;> rfl
  rw [normalForm, Layout.text_spaced, ← spellings, ← lexemes]
  rfl

/-- **Reading what was written.** Symbols and strings, written down with any blanks and
comments before, between and behind them, are read without a fault. They are read back
exactly when no comment stands directly behind a slash. The tokens of every source can be so
written, hence its lexemes with single spaces between them are read as the same tokens, and
have themselves as their normal form. -/
theorem lex_layout :
    (∀ layout : Layout,
      (lex layout.text).faults = [] ∧ (layout.IsReadBack ↔ layout.KeepsSlashes)) ∧
      ∀ source : Text,
        (∃ items : List Item,
          (lex source).tokens.dropLast.map Token.content = items.map Item.content) ∧
        (lex (normalForm source)).tokens.map Token.content =
          (lex source).tokens.map Token.content ∧
        (lex (normalForm source)).faults = [] ∧
        normalForm (normalForm source) = normalForm source := by
  refine ⟨fun layout => ⟨layout.faults_text, layout.isReadBack_iff⟩, fun source => ?_⟩
  obtain ⟨items, same⟩ := exists_items source
  have text := normalForm_eq_text same
  -- The normal form is a layout too, in which spaces keep comments away from slashes.
  obtain ⟨faults, readBack⟩ :=
    (Layout.isReadBack_iff _).mpr (Layout.keepsSlashes_spaced items)
  rw [← text] at faults readBack
  rw [Layout.map_content_spaced, ← same] at readBack
  have ending : (lex source).tokens.map Token.content =
      (lex source).tokens.dropLast.map Token.content ++ [(.endOfFile, [], none)] := by
    rw [map_content_lex, dropLast_tokens, Word.map_content_tokens]
  have content := readBack.trans ending.symm
  have again : normalForm (normalForm source) = normalForm source := by
    have before := congrArg List.dropLast content
    rw [← List.map_dropLast, ← List.map_dropLast] at before
    rw [normalForm_eq_text (before.trans same), text]
  exact ⟨⟨items, same⟩, content, faults, again⟩

/-- A slash with a comment directly behind it, which makes one comment of both. -/
def Layout.commentBehindSlash : Layout where
  opening := []
  entries := [⟨.symbol .slash, [.comment [] (by decide)]⟩]
  apart := by simp

/-- The slash is lost: the text of this layout holds a comment and a newline. -/
theorem Layout.commentBehindSlash_not_isReadBack :
    commentBehindSlash.text = "///\n".toList ∧ ¬ commentBehindSlash.IsReadBack := by
  refine ⟨rfl, ?_⟩
  rintro ⟨-, same⟩
  exact absurd same (by decide +kernel)

end LoxLexis
