import ClusterTrace.Text.Blank
import Mathlib.Data.List.Basic

/-!
# Words of lines

A line of words with spaces between them is split into these words again,
whatever blanks surround it and whatever lines follow, `words_trim_firstLine`.
-/

namespace ClusterTrace.Text

/-! ## Trimming -/

section Trimming

variable {text before after later : List Char}

theorem dropWhile_isBlank_eq_self
    (noLeading : ∀ c ∈ text.head?, isBlank c = false) :
    text.dropWhile isBlank = text := by
  cases text with
  | nil => rfl
  | cons c rest => rw [List.dropWhile_cons, noLeading c rfl]; rfl

theorem dropWhile_isBlank_append (blank : ∀ c ∈ before, isBlank c = true)
    (noLeading : ∀ c ∈ text.head?, isBlank c = false) :
    (before ++ text).dropWhile isBlank = text := by
  rw [List.dropWhile_append_of_pos blank, dropWhile_isBlank_eq_self noLeading]

/-- Blanks around a text that neither begins nor ends with one are left out. -/
theorem trim_append (blank : ∀ c ∈ before, isBlank c = true)
    (blank' : ∀ c ∈ after, isBlank c = true)
    (noLeading : ∀ c ∈ (text ++ after).head?, isBlank c = false)
    (noTrailing : ∀ c ∈ text.getLast?, isBlank c = false) :
    trim (before ++ (text ++ after)) = text := by
  rw [← List.head?_reverse] at noTrailing
  rw [trim, trimStart, dropWhile_isBlank_append blank noLeading, trimEnd,
    List.reverse_append, dropWhile_isBlank_append _ noTrailing,
    List.reverse_reverse]
  exact fun c member => blank' c (List.mem_reverse.mp member)

theorem trim_eq_self (noLeading : ∀ c ∈ text.head?, isBlank c = false)
    (noTrailing : ∀ c ∈ text.getLast?, isBlank c = false) :
    trim text = text := by
  have noBlanks : ∀ c ∈ ([] : List Char), isBlank c = true := by simp
  have trimmed := trim_append noBlanks noBlanks
    (by rwa [List.append_nil]) noTrailing
  rwa [List.nil_append, List.append_nil] at trimmed

theorem firstLine_append (oneLine : '\n' ∉ text)
    (isLater : ∀ c ∈ later.head?, c = '\n') :
    firstLine (text ++ later) = text := by
  have none : later.takeWhile (· != '\n') = [] := by
    cases later with
    | nil => rfl
    | cons c rest =>
        obtain rfl := isLater c rfl
        rfl
  rw [firstLine, List.takeWhile_append_of_pos, none, List.append_nil]
  intro c member
  rw [bne_iff_ne]
  rintro rfl
  exact oneLine member

end Trimming

/-! ## Words -/

/-- The text is one word. -/
structure IsWord (word : List Char) : Prop where
  ne_nil : word ≠ []
  noBlank : ∀ c ∈ word, isBlank c = false

/-- Words with spaces between them. -/
def spaced (words : List (List Char)) : List Char :=
  [' '].intercalate words

section Reading

variable {c next : Char} {rest word : List Char} {more : List (List Char)}

theorem words_of_isBlank (blank : isBlank c = true) :
    words (c :: rest) = words rest := by
  rw [words.eq_def]
  exact if_pos blank

theorem words_singleton (letter : isBlank c = false) : words [c] = [[c]] := by
  rw [words.eq_def]
  dsimp only
  rw [letter]
  rfl

/-- A word ends before a blank. -/
theorem words_of_ends (letter : isBlank c = false)
    (blank : isBlank next = true) :
    words (c :: next :: rest) = [c] :: words (next :: rest) := by
  rw [words.eq_def (c :: next :: rest)]
  dsimp only
  rw [letter, if_neg Bool.false_ne_true]
  cases words (next :: rest) with
  | nil => rfl
  | cons word more =>
      dsimp only
      rw [if_pos blank]

theorem words_of_goesOn (letter : isBlank c = false)
    (letter' : isBlank next = false)
    (later : words (next :: rest) = word :: more) :
    words (c :: next :: rest) = (c :: word) :: more := by
  rw [words.eq_def (c :: next :: rest)]
  dsimp only
  rw [letter, if_neg Bool.false_ne_true, later]
  dsimp only
  rw [letter', if_neg Bool.false_ne_true]

theorem words_append (isWord : IsWord word)
    (ends : ∀ c ∈ rest.head?, isBlank c = true) :
    words (word ++ rest) = word :: words rest := by
  obtain ⟨ne_nil, noBlank⟩ := isWord
  induction word with
  | nil => exact (ne_nil rfl).elim
  | cons c word ih =>
      rw [List.forall_mem_cons] at noBlank
      obtain ⟨letter, letters⟩ := noBlank
      cases word with
      | nil =>
          cases rest with
          | nil => exact words_singleton letter
          | cons next rest => exact words_of_ends letter (ends next rfl)
      | cons next word =>
          exact words_of_goesOn letter (letters next List.mem_cons_self)
            (ih (List.cons_ne_nil _ _) letters)

end Reading

section Lines

variable {word : List Char} {texts : List (List Char)}

theorem spaced_cons_cons (word next : List Char) (texts : List (List Char)) :
    spaced (word :: next :: texts) = word ++ ' ' :: spaced (next :: texts) := by
  rw [spaced, List.intercalate_cons_cons, List.append_assoc]
  rfl

theorem spaced_singleton (word : List Char) : spaced [word] = word :=
  List.intercalate_singleton

theorem words_spaced (areWords : ∀ word ∈ texts, IsWord word) :
    words (spaced texts) = texts := by
  induction texts with
  | nil => rfl
  | cons word texts ih =>
      rw [List.forall_mem_cons] at areWords
      cases texts with
      | nil =>
          have last : words (word ++ []) = word :: words [] :=
            words_append areWords.1 (by rintro c ⟨⟩)
          rw [List.append_nil] at last
          rwa [spaced_singleton]
      | cons next texts =>
          have ends : ∀ c ∈ (' ' :: spaced (next :: texts)).head?,
              isBlank c = true := by
            rintro c ⟨⟩
            decide
          rw [spaced_cons_cons, words_append areWords.1 ends,
            words_of_isBlank (by decide), ih areWords.2]

theorem exists_spaced (isWord : IsWord word) (texts : List (List Char)) :
    ∃ c rest, spaced (word :: texts) = c :: rest ∧ isBlank c = false := by
  obtain ⟨c, rest, rfl⟩ := List.exists_cons_of_ne_nil isWord.ne_nil
  have letter := isWord.noBlank c List.mem_cons_self
  cases texts with
  | nil => exact ⟨c, rest, spaced_singleton _, letter⟩
  | cons next texts => exact ⟨c, _, spaced_cons_cons _ _ _, letter⟩

theorem getLast?_spaced (areWords : ∀ word ∈ texts, IsWord word) :
    ∀ c ∈ (spaced texts).getLast?, isBlank c = false := by
  induction texts with
  | nil => rintro c ⟨⟩
  | cons word texts ih =>
      rw [List.forall_mem_cons] at areWords
      cases texts with
      | nil =>
          rw [spaced_singleton]
          exact fun c isLast =>
            areWords.1.noBlank c (List.mem_of_getLast? isLast)
      | cons next texts =>
          obtain ⟨d, rest, begins, -⟩ :=
            exists_spaced (areWords.2 next List.mem_cons_self) texts
          have last := ih areWords.2
          rw [spaced_cons_cons, List.getLast?_append, begins,
            List.getLast?_cons_cons]
          rw [begins] at last
          rw [List.getLast?_cons] at last ⊢
          exact last

theorem not_mem_spaced (areWords : ∀ word ∈ texts, IsWord word) :
    '\n' ∉ spaced texts := by
  induction texts with
  | nil => exact List.not_mem_nil
  | cons word texts ih =>
      rw [List.forall_mem_cons] at areWords
      have noFeed : '\n' ∉ word := fun member =>
        absurd (areWords.1.noBlank _ member) (by decide)
      cases texts with
      | nil => rwa [spaced_singleton]
      | cons next texts =>
          rw [spaced_cons_cons, List.mem_append, List.mem_cons, not_or, not_or]
          exact ⟨noFeed, by decide, ih areWords.2⟩

/-- The words of a line are read whatever blanks surround it and whatever lines
follow. -/
theorem words_trim_firstLine {before after later : List Char}
    (areWords : ∀ word ∈ texts, IsWord word) (nonempty : texts ≠ [])
    (blank : ∀ c ∈ before ++ after, isBlank c = true ∧ c ≠ '\n')
    (isLater : ∀ c ∈ later.head?, c = '\n') :
    words (trim (firstLine (before ++ (spaced texts ++ after) ++ later))) =
      texts := by
  rw [List.forall_mem_append] at blank
  obtain ⟨word, texts, rfl⟩ := List.exists_cons_of_ne_nil nonempty
  obtain ⟨c, rest, begins, letter⟩ :=
    exists_spaced (areWords word List.mem_cons_self) texts
  have oneLine : '\n' ∉ before ++ (spaced (word :: texts) ++ after) := by
    rw [List.mem_append, List.mem_append, not_or, not_or]
    exact ⟨fun member => (blank.1 _ member).2 rfl, not_mem_spaced areWords,
      fun member => (blank.2 _ member).2 rfl⟩
  rw [firstLine_append oneLine isLater, trim_append]
  · exact words_spaced areWords
  · exact fun c member => (blank.1 c member).1
  · exact fun c member => (blank.2 c member).1
  · rw [begins]
    rintro d ⟨⟩
    exact letter
  · exact getLast?_spaced areWords

end Lines

end ClusterTrace.Text
