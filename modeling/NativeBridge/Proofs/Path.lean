import NativeBridge.Path

/-!
# Splitting paths

A path splits at its last separator: what comes after it has none of its own.
So look-ups by the last segment do not care how often a path is cut, and a name
without colons is told apart from the namespace that it is qualified by.
-/

namespace NativeBridge.Path

/-- A separator further on is the last one. -/
theorem splitLastChars_cons_of_some {c : Char} {rest before after : List Char}
    (split : splitLastChars rest = some (before, after)) :
    splitLastChars (c :: rest) = some (c :: before, after) := by
  simp only [splitLastChars, split]

/-- Without a separator further on, only the first two characters may be one. -/
theorem splitLastChars_cons_of_none {c : Char} {rest : List Char}
    (whole : splitLastChars rest = none) :
    splitLastChars (c :: rest) = none ∨
      ∃ after, c = ':' ∧ rest = ':' :: after ∧
        splitLastChars (c :: rest) = some ([], after) := by
  simp only [splitLastChars, whole]
  split
  · exact .inr ⟨_, rfl, rfl, rfl⟩
  · exact .inl rfl

/-- What does not split has no part at its end that does. -/
theorem splitLastChars_tail {c : Char} {rest : List Char}
    (whole : splitLastChars (c :: rest) = none) : splitLastChars rest = none := by
  cases split : splitLastChars rest with
  | none => rfl
  | some parts =>
      rw [splitLastChars_cons_of_some split] at whole
      cases whole

/-- What comes after the last separator does not split again. -/
theorem splitLastChars_after {chars before after : List Char}
    (split : splitLastChars chars = some (before, after)) : splitLastChars after = none := by
  induction chars generalizing before with
  | nil => cases split
  | cons c rest ih =>
      cases later : splitLastChars rest with
      | some parts =>
          rw [splitLastChars_cons_of_some later] at split
          cases split
          exact ih later
      | none =>
          rcases splitLastChars_cons_of_none (c := c) later with
            whole | ⟨_, rfl, rfl, here⟩
          · rw [whole] at split
            cases split
          · rw [here] at split
            cases split
            exact splitLastChars_tail later

/-- The last segment of a last segment is itself. -/
theorem lastSegment_lastSegment (path : String) :
    lastSegment (lastSegment path) = lastSegment path := by
  unfold lastSegment splitLast
  cases split : splitLastChars path.toList with
  | none => simp [split]
  | some parts =>
      have whole := splitLastChars_after split
      simp [whole]

/-- Behind any character, characters other than colons do not split. -/
theorem splitLastChars_eq_none {c : Char} {rest : List Char} (plain : ':' ∉ rest) :
    splitLastChars (c :: rest) = none := by
  induction rest generalizing c with
  | nil => simp [splitLastChars]
  | cons next rest ih =>
      have whole := ih (c := next) (fun later => plain (List.mem_cons_of_mem _ later))
      rcases splitLastChars_cons_of_none (c := c) whole with none | ⟨_, -, same, -⟩
      · exact none
      · cases same
        exact absurd List.mem_cons_self plain

/-- A name without colons splits off what is written before its separator. -/
theorem splitLastChars_append {before after : List Char} (plain : ':' ∉ after) :
    splitLastChars (before ++ ':' :: ':' :: after) = some (before, after) := by
  induction before with
  | nil =>
      have whole : splitLastChars (':' :: after) = none := splitLastChars_eq_none plain
      rw [List.nil_append, splitLastChars, whole]
  | cons c rest ih => exact splitLastChars_cons_of_some ih

/-- A name without colons does not split. -/
theorem splitLast_eq_none {name : String} (plain : ':' ∉ name.toList) :
    splitLast name = none := by
  rw [splitLast]
  cases chars : name.toList with
  | nil => rfl
  | cons c rest =>
      rw [chars] at plain
      rw [splitLastChars_eq_none fun later => plain (List.mem_cons_of_mem _ later)]
      rfl

/-- A qualified name without colons splits into its namespace and itself. -/
theorem splitLast_qualify {space name : String} (plain : ':' ∉ name.toList) :
    splitLast (qualify space name) = if space.isEmpty then none else some (space, name) := by
  rw [qualify]
  split
  · exact splitLast_eq_none plain
  · have chars : (space ++ "::" ++ name).toList
        = space.toList ++ ':' :: ':' :: name.toList := by simp
    rw [splitLast, chars, splitLastChars_append plain]
    simp

/-- Names without colons are qualified in one way only. -/
theorem qualify_inj {space other name otherName : String} (plain : ':' ∉ name.toList)
    (otherPlain : ':' ∉ otherName.toList)
    (same : qualify space name = qualify other otherName) :
    space = other ∧ name = otherName := by
  have split := congrArg splitLast same
  rw [splitLast_qualify plain, splitLast_qualify otherPlain] at split
  by_cases unnamed : space.isEmpty
  · by_cases otherUnnamed : other.isEmpty
    · rw [qualify, if_pos unnamed, qualify, if_pos otherUnnamed] at same
      rw [String.isEmpty_iff] at unnamed otherUnnamed
      exact ⟨unnamed.trans otherUnnamed.symm, same⟩
    · simp [unnamed, otherUnnamed] at split
  · by_cases otherUnnamed : other.isEmpty
    · simp [unnamed, otherUnnamed] at split
    · simpa [unnamed, otherUnnamed] using split

/-- A name below a namespace is longer than the name alone. -/
theorem qualify_ne_self {space name : String} (named : ¬ space.isEmpty) :
    qualify space name ≠ name := by
  intro same
  have lengths := congrArg String.length same
  rw [qualify, if_neg named, String.length_append, String.length_append] at lengths
  have separator : "::".length = 2 := rfl
  omega

/-- One name is qualified alike by one namespace only. -/
theorem qualify_left_inj {space other name : String} :
    qualify space name = qualify other name ↔ space = other := by
  constructor
  · intro same
    by_cases unnamed : space.isEmpty
    · rw [qualify, if_pos unnamed] at same
      have otherUnnamed : other.isEmpty :=
        Decidable.byContradiction fun named => qualify_ne_self named same.symm
      rw [String.isEmpty_iff] at unnamed otherUnnamed
      exact unnamed.trans otherUnnamed.symm
    · by_cases otherUnnamed : other.isEmpty
      · rw [qualify.eq_def other, if_pos otherUnnamed] at same
        exact absurd same (qualify_ne_self unnamed)
      · simpa [qualify, unnamed, otherUnnamed] using same
  · rintro rfl
    rfl

end NativeBridge.Path
