import NativeBridge.Proofs.Naming.SnakeCase

/-!
# Idiomatic names

A method is idiomatically named by lower-case words joined by single underscores. Such a name
is its own snake case. Its pascal case gives up the underscores, but each word begins with the
only capital that it has, so the words can be read back. So can they be from upper case, which
keeps the underscores.
-/

namespace NativeBridge.Naming

open NativeBridge.Text

/-- A lower-case letter followed by lower-case letters and digits. -/
def IsWord (word : List Char) : Prop :=
  ∃ first rest, word = first :: rest ∧ first.isLower = true ∧ ∀ c ∈ rest, isWordChar c = true

/-- A word and any number of others, each behind one underscore. -/
def IsIdiomatic (name : String) : Prop :=
  ∃ (first : List Char) (others : List (List Char)), IsWord first ∧ (∀ word ∈ others, IsWord word) ∧
    name.toList = first ++ others.flatMap ('_' :: ·)

theorem IsWord.ne_nil {word : List Char} (isWord : IsWord word) : word ≠ [] := by
  obtain ⟨first, rest, rfl, -, -⟩ := isWord
  exact List.cons_ne_nil _ _

theorem IsWord.chars {word : List Char} (isWord : IsWord word) :
    ∀ c ∈ word, isWordChar c = true := by
  obtain ⟨first, rest, rfl, lower, chars⟩ := isWord
  exact List.forall_mem_cons.mpr ⟨by rw [isWordChar, lower, Bool.true_or], chars⟩

section SnakeCase

/-- Snake case may go on with a word. -/
theorem IsSnake.append_word {text word : List Char} (snake : IsSnake text)
    (chars : ∀ c ∈ word, isWordChar c = true) : IsSnake (text ++ word) := by
  induction word generalizing text with
  | nil => rwa [List.append_nil]
  | cons c rest ih =>
      obtain ⟨first, later⟩ := List.forall_mem_cons.mp chars
      rw [List.append_cons]
      exact ih (snake.concat first) later

/-- Snake case that ends with a word may go on with others. -/
theorem IsSnake.append_words {text word : List Char} {others : List (List Char)}
    (snake : IsSnake (text ++ word)) (isWord : IsWord word)
    (areWords : ∀ word ∈ others, IsWord word) :
    IsSnake (text ++ word ++ others.flatMap ('_' :: ·)) := by
  induction others generalizing text word with
  | nil => rwa [List.flatMap_nil, List.append_nil]
  | cons next others ih =>
      obtain ⟨isNext, later⟩ := List.forall_mem_cons.mp areWords
      have last : (text ++ word).getLast? ≠ some '_' := by
        rw [List.getLast?_append_of_ne_nil _ isWord.ne_nil]
        intro ends
        exact ne_underscore_of_isWordChar (isWord.chars '_' (List.mem_of_getLast? ends)) rfl
      have begun : text ++ word ≠ [] := List.append_ne_nil_of_right_ne_nil _ isWord.ne_nil
      have separated := (snake.concat_underscore begun last).append_word isNext.chars
      have whole := ih separated isNext later
      simpa only [List.flatMap_cons, List.append_assoc, List.cons_append, List.nil_append]
        using whole

/-- An idiomatic name is in the form of snake case. -/
theorem IsIdiomatic.isSnake {name : String} (idiomatic : IsIdiomatic name) :
    IsSnake name.toList := by
  obtain ⟨first, others, isWord, areWords, text⟩ := idiomatic
  have start : IsSnake ([] ++ first) := IsSnake.nil.append_word isWord.chars
  rw [text]
  exact start.append_words isWord areWords

/-- An idiomatic name is its own snake case. -/
theorem snakeCase_of_isIdiomatic {name : String} (idiomatic : IsIdiomatic name) :
    snakeCase name = name :=
  snakeCase_of_isSnake idiomatic.isSnake

end SnakeCase

/-- Lower case takes back the upper case of what stands in snake case. -/
theorem toLower_toUpper {c : Char} (inForm : isWordChar c = true ∨ c = '_') :
    c.toUpper.toLower = c := by
  rcases inForm with inWord | rfl
  · have kinds : isWordChar c = true → c.toUpper.toLower = c :=
      of_ascii (ascii_of_isWordChar inWord) (by decide +kernel)
    exact kinds inWord
  · rfl

section PascalCase

/-- A word with its first letter in upper case. -/
def capitalised : List Char → List Char
  | [] => []
  | first :: rest => first.toUpper :: rest

/-- Inside a part, pascal case keeps what is no underscore. -/
theorem pascalFrom_append {rest tail : List Char} (chars : ∀ c ∈ rest, isWordChar c = true) :
    pascalFrom false (rest ++ tail) = rest ++ pascalFrom false tail := by
  induction rest with
  | nil => rfl
  | cons c rest ih =>
      obtain ⟨first, later⟩ := List.forall_mem_cons.mp chars
      rw [List.cons_append, pascalFrom, if_neg (ne_underscore_of_isWordChar first), ih later]
      rfl

/-- At the start of a part, pascal case makes the first letter of a word a capital. -/
theorem pascalFrom_word {word tail : List Char} (isWord : IsWord word) :
    pascalFrom true (word ++ tail) = capitalised word ++ pascalFrom false tail := by
  have chars := isWord.chars
  obtain ⟨first, rest, rfl, -, -⟩ := isWord
  obtain ⟨isFirst, later⟩ := List.forall_mem_cons.mp chars
  rw [List.cons_append, pascalFrom, if_neg (ne_underscore_of_isWordChar isFirst), if_pos rfl,
    upper, if_pos (ascii_of_isWordChar isFirst), pascalFrom_append later]
  rfl

theorem pascalFrom_words {others : List (List Char)} (areWords : ∀ word ∈ others, IsWord word) :
    pascalFrom false (others.flatMap ('_' :: ·)) = others.flatMap capitalised := by
  induction others with
  | nil => rfl
  | cons word others ih =>
      obtain ⟨isWord, later⟩ := List.forall_mem_cons.mp areWords
      rw [List.flatMap_cons, List.flatMap_cons, List.cons_append, pascalFrom, if_pos rfl,
        pascalFrom_word isWord, ih later]

/-- A text of capitalised words is empty or begins with a capital. -/
theorem isUpper_of_head?_capitalised {words : List (List Char)}
    (areWords : ∀ word ∈ words, IsWord word) {c : Char}
    (first : (words.flatMap capitalised).head? = some c) : c.isUpper = true := by
  cases words with
  | nil => cases first
  | cons word words =>
      obtain ⟨letter, rest, rfl, lower, -⟩ := areWords word List.mem_cons_self
      have kinds : letter.isLower = true → letter.toUpper.isUpper = true := by
        have inWord : isWordChar letter = true := by rw [isWordChar, lower, Bool.true_or]
        exact of_ascii (ascii_of_isWordChar inWord) (by decide +kernel)
      rw [← Option.some.inj first]
      exact kinds lower

/-- What has no capital ends where the capitalised words begin. -/
theorem takeWhile_append_capitalised {rest : List Char} {words : List (List Char)}
    (chars : ∀ c ∈ rest, isWordChar c = true) (areWords : ∀ word ∈ words, IsWord word) :
    (rest ++ words.flatMap capitalised).takeWhile (fun c => !c.isUpper) = rest := by
  have small : ∀ c ∈ rest, (!c.isUpper) = true := by
    intro c isChar
    have kinds : isWordChar c = true → (!c.isUpper) = true :=
      of_ascii (ascii_of_isWordChar (chars c isChar)) (by decide +kernel)
    exact kinds (chars c isChar)
  rw [List.takeWhile_append_of_pos small]
  cases text : words.flatMap capitalised with
  | nil => rw [List.takeWhile_nil, List.append_nil]
  | cons c later =>
      have capital : c.isUpper = true := isUpper_of_head?_capitalised areWords (by rw [text]; rfl)
      rw [List.takeWhile_cons_of_neg (by simp [capital]), List.append_nil]

/-- The words of a text of capitalised ones can be read back: each begins with its only capital. -/
theorem eq_of_flatMap_capitalised {left right : List (List Char)}
    (leftWords : ∀ word ∈ left, IsWord word) (rightWords : ∀ word ∈ right, IsWord word)
    (same : left.flatMap capitalised = right.flatMap capitalised) : left = right := by
  have nonempty : ∀ {word : List Char} {others : List (List Char)}, IsWord word →
      (word :: others).flatMap capitalised ≠ [] := by
    rintro _ _ ⟨first, rest, rfl, -, -⟩
    exact List.cons_ne_nil _ _
  induction left generalizing right with
  | nil =>
      cases right with
      | nil => rfl
      | cons word others => exact absurd same.symm (nonempty (rightWords word List.mem_cons_self))
  | cons word others ih =>
      cases right with
      | nil => exact absurd same (nonempty (leftWords word List.mem_cons_self))
      | cons word' others' =>
          obtain ⟨isWord, later⟩ := List.forall_mem_cons.mp leftWords
          obtain ⟨isWord', later'⟩ := List.forall_mem_cons.mp rightWords
          have chars := isWord.chars
          have chars' := isWord'.chars
          obtain ⟨first, rest, rfl, -, -⟩ := isWord
          obtain ⟨first', rest', rfl, -, -⟩ := isWord'
          obtain ⟨inWord, restChars⟩ := List.forall_mem_cons.mp chars
          obtain ⟨inWord', restChars'⟩ := List.forall_mem_cons.mp chars'
          obtain ⟨capital, tails⟩ := List.cons.inj same
          have sameFirst : first = first' := by
            rw [← toLower_toUpper (.inl inWord), capital, toLower_toUpper (.inl inWord')]
          have sameRest : rest = rest' := by
            rw [← takeWhile_append_capitalised restChars later,
              ← takeWhile_append_capitalised restChars' later']
            exact congrArg _ tails
          rw [sameRest] at tails
          rw [sameFirst, sameRest, ih later later' (List.append_cancel_left tails)]

/-- Idiomatic names with one pascal case are equal. -/
theorem pascalCase_injective_of_isIdiomatic {left right : String} (isLeft : IsIdiomatic left)
    (isRight : IsIdiomatic right) (same : pascalCase left = pascalCase right) : left = right := by
  obtain ⟨first, others, isWord, areWords, text⟩ := isLeft
  obtain ⟨first', others', isWord', areWords', text'⟩ := isRight
  have parts : (first :: others).flatMap capitalised = (first' :: others').flatMap capitalised := by
    have chars := String.ofList_injective same
    rwa [text, text', pascalFrom_word isWord, pascalFrom_word isWord', pascalFrom_words areWords,
      pascalFrom_words areWords'] at chars
  have words := eq_of_flatMap_capitalised (List.forall_mem_cons.mpr ⟨isWord, areWords⟩)
    (List.forall_mem_cons.mpr ⟨isWord', areWords'⟩) parts
  obtain ⟨rfl, rfl⟩ := List.cons.inj words
  exact String.toList_injective (text.trans text'.symm)

end PascalCase

section UpperCase

/-- The upper case of a text in the form is that of each character. -/
theorem toList_upperText {name : String} (snake : IsSnake name.toList) :
    (upperText name).toList = name.toList.map Char.toUpper := by
  have each : ∀ c ∈ name.toList, upper c = [c.toUpper] := by
    intro c isChar
    rcases snake.chars c isChar with inWord | rfl
    · exact if_pos (ascii_of_isWordChar inWord)
    · rfl
  rw [upperText, String.toList_ofList, List.flatMap_congr each, List.map_eq_flatMap]

/-- Texts in the form with one upper case are equal: its lower case is what they were. -/
theorem upperText_injective_of_isSnake {left right : String} (isLeft : IsSnake left.toList)
    (isRight : IsSnake right.toList) (same : upperText left = upperText right) : left = right := by
  have keeps : ∀ {name : String}, IsSnake name.toList →
      (upperText name).toList.map Char.toLower = name.toList := by
    intro name snake
    rw [toList_upperText snake, List.map_map]
    exact (List.map_congr_left fun c isChar => toLower_toUpper (snake.chars c isChar)).trans
      (List.map_id _)
  exact String.toList_injective (by rw [← keeps isLeft, same, keeps isRight])

end UpperCase

end NativeBridge.Naming
