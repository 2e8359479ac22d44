import Mathlib.Data.List.Chain
import NativeBridge.Proofs.Naming
import NativeBridge.Proofs.Text.Ascii

/-!
# Snake case is a normal form

The scan puts an underscore after what it has written only where letters or digits stand
before it and no underscore does. What it writes of an ASCII name is therefore a text of
lower-case words, and the scan keeps every such text.
-/

namespace NativeBridge.Naming

open NativeBridge.Text

/-- The ASCII letters and digits of snake case. -/
def isWordChar (c : Char) : Bool :=
  c.isLower || c.isDigit

/-- Lower-case letters, digits and single underscores, of which none stands first. -/
structure IsSnake (text : List Char) : Prop where
  chars : ∀ c ∈ text, isWordChar c = true ∨ c = '_'
  starts : text.head? ≠ some '_'
  single : text.IsChain fun c next => ¬(c = '_' ∧ next = '_')

theorem ascii_of_isWordChar {c : Char} (inWord : isWordChar c = true) : c.val < 0x80 := by
  rcases Bool.or_eq_true_iff.mp inWord with lower | digit
  · exact ascii_of_isLower lower
  · exact ascii_of_isDigit digit

theorem ne_underscore_of_isWordChar {c : Char} (inWord : isWordChar c = true) : c ≠ '_' := by
  rintro rfl
  cases inWord

/-- The scan writes a character of a word as it is. -/
theorem snakeStep_wordChar {previous next : Option Char} {c : Char} {written : List Char}
    (inWord : isWordChar c = true) : snakeStep previous next c written = c :: written := by
  have kinds : isWordChar c = true → c.isUpper = false ∧ c.isAlphanum = true :=
    of_ascii (ascii_of_isWordChar inWord) (by decide +kernel)
  have ascii := ascii_of_isWordChar inWord
  rw [snakeStep, isUppercase_ascii ascii, isAlphanumeric_ascii ascii, (kinds inWord).1,
    (kinds inWord).2]
  rfl

namespace IsSnake

theorem nil : IsSnake [] :=
  ⟨fun _ isChar => absurd isChar List.not_mem_nil, by decide, .nil⟩

/-- One more character of a word keeps the form. -/
theorem concat {text : List Char} {c : Char} (snake : IsSnake text) (inWord : isWordChar c = true) :
    IsSnake (text ++ [c]) where
  chars := by
    intro other isChar
    rcases List.mem_append.mp isChar with before | last
    · exact snake.chars other before
    · rw [List.mem_singleton.mp last]
      exact .inl inWord
  starts := by
    cases text with
    | nil => exact fun first => ne_underscore_of_isWordChar inWord (Option.some.inj first)
    | cons first rest => exact snake.starts
  single := by
    refine List.isChain_append.mpr ⟨snake.single, .singleton c, ?_⟩
    intro before _ after isAfter both
    cases isAfter
    exact ne_underscore_of_isWordChar inWord both.2

/-- So does an underscore after a character of a word. -/
theorem concat_underscore {text : List Char} (snake : IsSnake text) (begun : text ≠ [])
    (last : text.getLast? ≠ some '_') : IsSnake (text ++ ['_']) where
  chars := by
    intro other isChar
    rcases List.mem_append.mp isChar with before | underscore
    · exact snake.chars other before
    · exact .inr (List.mem_singleton.mp underscore)
  starts := by
    obtain ⟨first, rest, rfl⟩ := List.exists_cons_of_ne_nil begun
    exact snake.starts
  single := by
    refine List.isChain_append.mpr ⟨snake.single, .singleton '_', ?_⟩
    intro before isBefore after isAfter both
    exact last (both.1 ▸ isBefore)

end IsSnake

/-- What the scan has written: a text in the form, which is not empty after a letter or a digit. -/
structure SnakeSoFar (previous : Option Char) (written : List Char) : Prop where
  snake : IsSnake written.reverse
  begun : ∀ c, previous = some c → c.isAlphanum = true → written ≠ []

/-- A separator after anything keeps the form. -/
theorem isSnake_separate {written : List Char} (snake : IsSnake written.reverse)
    (begun : written ≠ []) : IsSnake (separate written).reverse := by
  rw [separate]
  split
  · exact snake
  · rename_i noUnderscore
    rw [List.reverse_cons]
    refine snake.concat_underscore (by simpa using begun) ?_
    rw [List.getLast?_reverse]
    simpa using noUnderscore

/-- Only after a letter or a digit does a character begin a word. -/
theorem isAlphanum_of_startsWord {c : Char} {next : Option Char} (ascii : c.val < 0x80)
    (starts : startsWord (some c) next = true) : c.isAlphanum = true := by
  have kinds : (c.isLower || c.isDigit || c.isUpper) = true → c.isAlphanum = true :=
    of_ascii ascii (by decide +kernel)
  simp only [startsWord, isLowercase_ascii ascii, isUppercase_ascii ascii] at starts
  apply kinds
  split at starts
  · rename_i lowerOrDigit
    rw [lowerOrDigit]
    rfl
  · rw [(Bool.and_eq_true_iff.mp starts).1, Bool.or_true]

/-- The letters and digits of a text in the form. -/
def unseparated (text : List Char) : List Char :=
  text.filter (· ≠ '_')

theorem unseparated_concat {text : List Char} {c : Char} (inWord : isWordChar c = true) :
    unseparated (text ++ [c]) = unseparated text ++ [c] := by
  rw [unseparated, List.filter_append, List.filter_cons_of_pos, List.filter_nil, unseparated]
  exact decide_eq_true (ne_underscore_of_isWordChar inWord)

theorem unseparated_separate (written : List Char) :
    unseparated (separate written).reverse = unseparated written.reverse := by
  rw [separate]
  split
  · rfl
  · rw [List.reverse_cons, unseparated, List.filter_append, List.filter_cons_of_neg (by decide),
      List.filter_nil, List.append_nil, unseparated]

/-- The lower case of the letters and digits of a name. -/
def loweredLetters (name : List Char) : List Char :=
  (name.filter Char.isAlphanum).map Char.toLower

theorem loweredLetters_append (front back : List Char) :
    loweredLetters (front ++ back) = loweredLetters front ++ loweredLetters back := by
  rw [loweredLetters, List.filter_append, List.map_append, loweredLetters, loweredLetters]

theorem loweredLetters_letter {c : Char} (alphanum : c.isAlphanum = true) :
    loweredLetters [c] = [c.toLower] := by
  rw [loweredLetters, List.filter_cons_of_pos alphanum]
  rfl

theorem loweredLetters_mark {c : Char} (other : ¬c.isAlphanum = true) :
    loweredLetters [c] = [] := by
  rw [loweredLetters, List.filter_cons_of_neg other]
  rfl

/-- One character keeps the form and adds its lower case if it is a letter or a digit. -/
theorem SnakeSoFar.step {previous : Option Char} {written : List Char} {c : Char}
    (next : Option Char) (before : ∀ p, previous = some p → p.val < 0x80) (ascii : c.val < 0x80)
    (soFar : SnakeSoFar previous written) :
    SnakeSoFar (some c) (snakeStep previous next c written) ∧
      unseparated (snakeStep previous next c written).reverse =
        unseparated written.reverse ++ loweredLetters [c] := by
  obtain ⟨snake, begun⟩ := soFar
  by_cases upper : c.isUpper = true
  · have kinds : c.isUpper = true → c.isAlphanum = true ∧ isWordChar c.toLower = true :=
      of_ascii ascii (by decide +kernel)
    obtain ⟨alphanum, inWord⟩ := kinds upper
    obtain ⟨base, step, baseSnake, same⟩ : ∃ base,
        snakeStep previous next c written = c.toLower :: base ∧ IsSnake base.reverse ∧
          unseparated base.reverse = unseparated written.reverse := by
      rw [snakeStep, isUppercase_ascii ascii, if_pos upper, lower_ascii ascii]
      refine ⟨_, rfl, ?_⟩
      split
      · rename_i starts
        cases previous with
        | none => cases starts
        | some p =>
            have wasAlphanum := isAlphanum_of_startsWord (before p rfl) starts
            exact ⟨isSnake_separate snake (begun p rfl wasAlphanum), unseparated_separate written⟩
      · exact ⟨snake, rfl⟩
    rw [step, List.reverse_cons, unseparated_concat inWord, same, loweredLetters_letter alphanum]
    refine ⟨⟨?_, fun _ _ _ => List.cons_ne_nil _ _⟩, rfl⟩
    rw [List.reverse_cons]
    exact baseSnake.concat inWord
  · by_cases alphanum : c.isAlphanum = true
    · have kinds : c.isUpper = false → c.isAlphanum = true → isWordChar c = true ∧ c.toLower = c :=
        of_ascii ascii (by decide +kernel)
      obtain ⟨inWord, same⟩ := kinds (Bool.not_eq_true _ ▸ upper) alphanum
      rw [snakeStep_wordChar inWord, List.reverse_cons, unseparated_concat inWord,
        loweredLetters_letter alphanum, same]
      refine ⟨⟨?_, fun _ _ _ => List.cons_ne_nil _ _⟩, rfl⟩
      rw [List.reverse_cons]
      exact snake.concat inWord
    · have other : ∀ d, some c = some d → d.isAlphanum = true → False := by
        rintro _ ⟨⟩ isAlphanum
        exact alphanum isAlphanum
      rw [snakeStep, isUppercase_ascii ascii, if_neg upper, isAlphanumeric_ascii ascii,
        if_neg alphanum, loweredLetters_mark alphanum, List.append_nil]
      split
      · exact ⟨⟨snake, fun d same isAlphanum => (other d same isAlphanum).elim⟩, rfl⟩
      · rename_i nonempty
        have notEmpty : written ≠ [] := by simpa using nonempty
        exact ⟨⟨isSnake_separate snake notEmpty,
          fun d same isAlphanum => (other d same isAlphanum).elim⟩, unseparated_separate written⟩

/-- The remaining characters keep the form and add the lower case of their letters and digits. -/
theorem SnakeSoFar.run {previous : Option Char} {written rest : List Char}
    (before : ∀ p, previous = some p → p.val < 0x80) (ascii : ∀ c ∈ rest, c.val < 0x80)
    (soFar : SnakeSoFar previous written) :
    IsSnake (snakeFrom previous written rest).reverse ∧
      unseparated (snakeFrom previous written rest).reverse =
        unseparated written.reverse ++ loweredLetters rest := by
  induction rest generalizing previous written with
  | nil => exact ⟨soFar.snake, (List.append_nil _).symm⟩
  | cons c rest ih =>
      obtain ⟨first, later⟩ := List.forall_mem_cons.mp ascii
      obtain ⟨keeps, adds⟩ := soFar.step rest.head? before first
      obtain ⟨snake, all⟩ := ih (fun p same => Option.some.inj same ▸ first) later keeps
      refine ⟨snake, ?_⟩
      rw [snakeFrom, all, adds, List.append_assoc, ← loweredLetters_append, List.singleton_append]

/-- The scan writes an underscore in the form as it is. -/
theorem snakeStep_underscore {previous next : Option Char} {written rest : List Char}
    (snake : IsSnake (written.reverse ++ '_' :: rest)) :
    snakeStep previous next '_' written = '_' :: written := by
  have begun : written ≠ [] := by
    rintro rfl
    exact snake.starts rfl
  have noUnderscore : written.head? ≠ some '_' := by
    rw [← List.getLast?_reverse]
    intro last
    obtain ⟨-, -, apart⟩ := List.isChain_append.mp snake.single
    exact apart '_' last '_' rfl ⟨rfl, rfl⟩
  rw [snakeStep, if_neg (by decide), if_neg (by decide), if_neg (by simpa using begun), separate,
    if_neg (by simpa using noUnderscore)]

/-- The scan writes the rest of a text in the form as it is. -/
theorem snakeFrom_of_isSnake {previous : Option Char} {written rest : List Char}
    (snake : IsSnake (written.reverse ++ rest)) :
    snakeFrom previous written rest = rest.reverse ++ written := by
  induction rest generalizing previous written with
  | nil => rfl
  | cons c rest ih =>
      have keeps : snakeStep previous rest.head? c written = c :: written := by
        have isChar : c ∈ written.reverse ++ c :: rest :=
          List.mem_append_right _ List.mem_cons_self
        rcases snake.chars c isChar with inWord | underscore
        · exact snakeStep_wordChar inWord
        · rw [underscore] at snake ⊢
          exact snakeStep_underscore snake
      rw [snakeFrom, keeps, ih (by simpa using snake), List.reverse_cons, List.append_assoc]
      rfl

/-- A text in the form is its own snake case. -/
theorem snakeCase_of_isSnake {name : String} (snake : IsSnake name.toList) :
    snakeCase name = name := by
  rw [snakeCase, snakeFrom_of_isSnake (by simpa using snake), List.append_nil, List.reverse_reverse,
    String.ofList_toList]

/-- The snake case of an ASCII name is a text in the form that has the letters and digits of the
name, in order and in lower case; it is its own snake case. -/
theorem snakeCase_normal {name : String} (ascii : ∀ c ∈ name.toList, c.val < 0x80) :
    IsSnake (snakeCase name).toList ∧
      (snakeCase name).toList.filter (· ≠ '_') =
        (name.toList.filter Char.isAlphanum).map Char.toLower ∧
      snakeCase (snakeCase name) = snakeCase name := by
  have start : SnakeSoFar none [] := ⟨.nil, fun _ isSome => nomatch isSome⟩
  obtain ⟨snake, letters⟩ := start.run (by rintro _ ⟨⟩) ascii
  have text : (snakeCase name).toList = (snakeFrom none [] name.toList).reverse :=
    String.toList_ofList
  rw [← text] at snake letters
  exact ⟨snake, letters, snakeCase_of_isSnake snake⟩

/-- Acronyms, digits and several underscores in one name. -/
theorem snakeCase_normal_http :
    (∀ c ∈ "_HTTPServer__v2_".toList, c.val < 0x80) ∧
      snakeCase "_HTTPServer__v2_" = "http_server_v2_" ∧
      IsSnake "http_server_v2_".toList ∧ snakeCase "http_server_v2_" = "http_server_v2_" := by
  have ascii : ∀ c ∈ "_HTTPServer__v2_".toList, c.val < 0x80 := by simp
  have image : snakeCase "_HTTPServer__v2_" = "http_server_v2_" := by decide +kernel
  obtain ⟨snake, -, fixed⟩ := snakeCase_normal ascii
  rw [image] at snake fixed
  exact ⟨ascii, image, snake, fixed⟩

end NativeBridge.Naming
