import NativeBridge.Proofs.Naming
import NativeBridge.Proofs.Source.Names

/-!
# Which names become identifiers

Snake case drops what stands before the first letter or number, so that of two names that are
identifiers one may become a number. `isIdentifier_snakeCase_iff` says that the first character
which is kept decides.
-/

namespace NativeBridge.Naming

open NativeBridge.Text NativeBridge.Source

/-- A character that snake case keeps, as it is or in lower case. -/
def isKept (c : Char) : Bool :=
  isUppercase c || isAlphanumeric c

/-- What snake case makes of a character that it keeps. -/
def keptAs (c : Char) : List Char :=
  if isUppercase c then lower c else [c]

/-- The first character that snake case keeps may begin an identifier. -/
def Leads (name : String) : Prop :=
  (name.toList.find? isKept).any isIdentifierStart = true

instance (name : String) : Decidable (Leads name) :=
  inferInstanceAs (Decidable (_ = _))

/-! ### The first character of snake case -/

theorem suffix_separate (written : List Char) : written <:+ separate written := by
  rw [separate]
  split
  · exact List.suffix_refl written
  · exact List.suffix_cons '_' written

theorem suffix_snakeStep (previous next : Option Char) (c : Char) (written : List Char) :
    written <:+ snakeStep previous next c written := by
  rw [snakeStep]
  split
  · refine List.IsSuffix.trans ?_ (List.suffix_append _ _)
    split
    · exact suffix_separate written
    · exact List.suffix_refl written
  · split
    · exact List.suffix_cons c written
    · split
      · exact List.suffix_refl written
      · exact suffix_separate written

/-- What is written stays. -/
theorem suffix_snakeFrom (previous : Option Char) (written rest : List Char) :
    written <:+ snakeFrom previous written rest := by
  induction rest generalizing previous written with
  | nil => exact List.suffix_refl written
  | cons c rest ih => exact (suffix_snakeStep previous rest.head? c written).trans (ih _ _)

theorem getLast?_snakeFrom {previous : Option Char} {written rest : List Char} {first : Char}
    (isFirst : written.getLast? = some first) :
    (snakeFrom previous written rest).getLast? = some first := by
  obtain ⟨more, same⟩ := suffix_snakeFrom previous written rest
  rw [← same, List.getLast?_append, isFirst]
  rfl

/-- A kept character does not become nothing. -/
theorem exists_head?_keptAs (c : Char) : ∃ first, (keptAs c).head? = some first := by
  rw [keptAs, lower]
  split
  · split
    · exact ⟨_, rfl⟩
    · split
      · exact ⟨_, rfl⟩
      · exact ⟨_, rfl⟩
  · exact ⟨c, rfl⟩

/-- No word begins after a character that is not kept. -/
theorem startsWord_of_not_isKept {previous next : Option Char}
    (before : ∀ p, previous = some p → isKept p = false) : startsWord previous next = false := by
  cases previous with
  | none => rfl
  | some p =>
      obtain ⟨notUpper, notAlphanumeric⟩ := Bool.or_eq_false_iff.mp (before p rfl)
      have other : ¬isAlphanumeric p = true := Bool.eq_false_iff.mp notAlphanumeric
      have notLower : isLowercase p = false :=
        Bool.eq_false_iff.mpr fun lowercase => other (isAlphanumeric_of_isLowercase lowercase)
      have notDigit : p.isDigit = false :=
        Bool.eq_false_iff.mpr fun digit => other (isAlphanumeric_of_isDigit digit)
      rw [startsWord, notLower, notDigit, notUpper]
      rfl

/-- The first character that is written is that of the first character that is kept. -/
theorem getLast?_snakeFrom_nil {previous : Option Char} {rest : List Char}
    (before : ∀ p, previous = some p → isKept p = false) :
    (snakeFrom previous [] rest).getLast? =
      (rest.find? isKept).bind fun c => (keptAs c).head? := by
  induction rest generalizing previous with
  | nil => rfl
  | cons c rest ih =>
      rw [snakeFrom]
      cases kept : isKept c with
      | true =>
          have step : snakeStep previous rest.head? c [] = (keptAs c).reverse := by
            rw [snakeStep, keptAs, startsWord_of_not_isKept before]
            split
            · exact List.append_nil _
            · rename_i notUpper
              rw [if_pos ((Bool.or_eq_true_iff.mp kept).resolve_left notUpper)]
              rfl
          obtain ⟨first, isFirst⟩ := exists_head?_keptAs c
          rw [step, List.find?_cons_of_pos kept, Option.bind_some, isFirst]
          exact getLast?_snakeFrom (List.getLast?_reverse.trans isFirst)
      | false =>
          have step : snakeStep previous rest.head? c [] = [] := by
            obtain ⟨notUpper, notAlphanumeric⟩ := Bool.or_eq_false_iff.mp kept
            rw [snakeStep, notUpper, notAlphanumeric]
            rfl
          rw [step, List.find?_cons_of_neg (Bool.eq_false_iff.mp kept)]
          exact ih fun p same => Option.some.inj same ▸ kept

theorem head?_snakeCase (name : String) :
    (snakeCase name).toList.head? =
      (name.toList.find? isKept).bind fun c => (keptAs c).head? := by
  rw [snakeCase, String.toList_ofList, List.head?_reverse]
  exact getLast?_snakeFrom_nil (by rintro _ ⟨⟩)

/-! ### Identifiers -/

/-- Every character in the snake case of a name goes on with identifiers. -/
theorem goesOn_snakeCase {name : String} (isName : IsName name) :
    ∀ c ∈ (snakeCase name).toList, isIdentifierContinue c = true := by
  have goesOn := (isName_iff.mp isName).goesOn
  intro image isImage
  cases mem_snakeCase isImage with
  | underscore => decide
  | kept isChar alphanumeric =>
      refine goesOn image isChar ?_
      rintro rfl
      cases alphanumeric
  | @lowered c _ isChar uppercase isImage =>
      refine goesOn_lower (goesOn c isChar ?_) image isImage
      rintro rfl
      cases uppercase

/-- A kept character of a name begins identifiers if what it becomes does. -/
theorem begins_keptAs_iff {name : String} {c : Char} (isName : IsName name)
    (isChar : c ∈ name.toList) (kept : isKept c = true) :
    (keptAs c).head?.any isIdentifierStart = true ↔ isIdentifierStart c = true := by
  have goesOn : isIdentifierContinue c = true := by
    refine (isName_iff.mp isName).goesOn c isChar ?_
    rintro rfl
    cases kept
  rw [keptAs]
  split
  · rename_i uppercase
    have begins := isIdentifierStart_of_isUppercase uppercase goesOn
    exact iff_of_true (begins_lower begins) begins
  · exact Iff.rfl

theorem begins_snakeCase_iff {name : String} (isName : IsName name) :
    (snakeCase name).toList.head?.any isIdentifierStart = true ↔ Leads name := by
  rw [head?_snakeCase, Leads]
  cases found : name.toList.find? isKept with
  | none => exact Iff.rfl
  | some c =>
      exact begins_keptAs_iff isName (List.mem_of_find?_eq_some found) (List.find?_some found)

/-- The snake case of a name is an identifier exactly if the first character of the name that is
kept may begin one. -/
theorem isIdentifier_snakeCase_iff {name : String} (isName : IsName name) :
    IsIdentifier (snakeCase name).toList ↔ Leads name := by
  rw [isIdentifier_iff, begins_snakeCase_iff isName]
  exact and_iff_left (goesOn_snakeCase isName)

end NativeBridge.Naming
