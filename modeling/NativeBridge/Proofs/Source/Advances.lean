import NativeBridge.Proofs.Source.Parser

/-!
# Parsers move forward

A parser takes trees from the front of its input and looks into groups, but it never
puts a tree back that was not there: what a parser that succeeds has left is an end of
what it was given. All ways to build parsers keep to that, so that it can be shown rule
by rule; the lemmas are given to `grind`, which follows the text of a rule.
-/

namespace NativeBridge.Source.Parser

variable {α β : Type}

/-- A parser that only moves forward. -/
structure Advances (parser : Parser α) : Prop where
  /-- What is left when it succeeds is an end of what it was given. -/
  suffix : ∀ {input after : Input} {value : α}, parser input = .ok (value, after) →
    after.rest <:+ input.rest

section Sequences

@[grind ←]
theorem advances_bind {first : Parser α} {next : α → Parser β} (isFirst : first.Advances)
    (isNext : ∀ value, (next value).Advances) : (first >>= next).Advances where
  suffix := by
    intro input after result isRead
    obtain ⟨value, middle, readFirst, readNext⟩ := bind_eq_ok_iff.mp isRead
    exact ((isNext value).suffix readNext).trans (isFirst.suffix readFirst)

@[grind ←]
theorem advances_pure (value : α) : (pure value : Parser α).Advances where
  suffix := by
    intro input after result isRead
    obtain ⟨-, rfl⟩ := pure_eq_ok_iff.mp isRead
    exact List.suffix_refl _

@[grind ←]
theorem advances_map {f : α → β} {parser : Parser α} (advances : parser.Advances) :
    (f <$> parser).Advances :=
  advances_bind advances fun value => advances_pure (f value)

/-- For `grind` a branch is a case; a long chain of them is taken apart with this lemma. -/
theorem advances_ite {condition : Prop} [Decidable condition] {first second : Parser α}
    (isFirst : first.Advances) (isSecond : second.Advances) :
    (if condition then first else second).Advances := by
  split
  · exact isFirst
  · exact isSecond

end Sequences

section Looks

@[grind ←]
theorem advances_get : (get : Parser Input).Advances where
  suffix := by
    intro input after found isGet
    cases isGet
    exact List.suffix_refl _

@[grind ←]
theorem advances_look : look.Advances :=
  advances_bind advances_get fun input => advances_pure input.rest

@[grind ←]
theorem advances_peek (condition : List Tree → Bool) : (peek condition).Advances :=
  advances_bind advances_get fun input => advances_pure (condition input.rest)

@[grind ←]
theorem advances_isEmpty : isEmpty.Advances :=
  advances_peek List.isEmpty

@[grind ←]
theorem advances_here : here.Advances :=
  advances_bind advances_get fun _ => advances_pure _

@[grind ←]
theorem advances_front : front.Advances :=
  advances_bind advances_here fun _ => advances_pure _

end Looks

section Faults

variable {complaint : Complaint}

@[grind ←]
theorem advances_failAt {place : Option Region} : (failAt complaint place : Parser α).Advances :=
  ⟨fun isRead => absurd isRead failAt_ne_ok⟩

@[grind ←]
theorem advances_fail : (fail complaint : Parser α).Advances :=
  ⟨fun isRead => absurd isRead fail_ne_ok⟩

@[grind ←]
theorem advances_failSaying : (failSaying complaint : Parser α).Advances :=
  ⟨fun isRead => absurd isRead failSaying_ne_ok⟩

@[grind ←]
theorem advances_malformed : (malformed : Parser α).Advances :=
  advances_fail

end Faults

section Tokens

@[grind ←]
theorem advances_tree : tree.Advances where
  suffix := by
    intro input after found isTree
    obtain ⟨rest, isRest, rfl⟩ := tree_eq_ok_iff.mp isTree
    rw [isRest, Input.rest_onward]
    exact List.suffix_cons found rest

@[grind ←]
theorem advances_skip (chars : List Char) : (skip chars).Advances := by
  induction chars with
  | nil => exact advances_pure ()
  | cons c rest ih => exact advances_bind advances_tree fun _ => ih

@[grind ←]
theorem advances_punct (token : String) : (punct token).Advances := by
  unfold punct
  grind

@[grind ←]
theorem advances_punct? (token : String) : (punct? token).Advances := by
  unfold punct?
  grind

@[grind ←]
theorem advances_word (text : String) : (word text).Advances := by
  unfold word
  grind

@[grind ←]
theorem advances_word? (text : String) : (word? text).Advances := by
  unfold word?
  grind

@[grind ←]
theorem advances_anyWord : anyWord.Advances := by
  unfold anyWord
  grind

@[grind ←]
theorem advances_name : name.Advances := by
  unfold name
  grind

@[grind ←]
theorem advances_lifetime : lifetime.Advances := by
  unfold lifetime
  grind

@[grind ←]
theorem advances_lifetime? : lifetime?.Advances := by
  unfold lifetime?
  grind

@[grind ←]
theorem advances_literal : literal.Advances := by
  unfold literal
  grind

@[grind ←]
theorem advances_string : string.Advances := by
  unfold string
  grind

@[grind ←]
theorem advances_anyGroup : anyGroup.Advances := by
  unfold anyGroup
  grind

end Tokens

section Parts

variable {parser : Parser α}

@[grind ←]
theorem advances_located (advances : parser.Advances) : (located parser).Advances := by
  unfold located
  grind

@[grind ←]
theorem advances_sliced (advances : parser.Advances) : (sliced parser).Advances := by
  unfold sliced
  grind

/-- What is only foreseen is not read. -/
@[grind ←]
theorem advances_ahead (parser : Parser α) : (ahead parser).Advances where
  suffix := by
    intro input after found isRead
    rw [ahead] at isRead
    split at isRead <;> cases isRead <;> exact List.suffix_refl _

@[grind ←]
theorem advances_attempt (advances : parser.Advances) : (attempt parser).Advances where
  suffix := by
    intro input after found isRead
    rw [attempt] at isRead
    split at isRead
    · rename_i value rest readParser
      cases isRead
      exact advances.suffix readParser
    · cases isRead
      exact List.suffix_refl _

/-- What is inside a group is read by itself, and what follows the group is left. -/
theorem inside_of_within {inner : List Tree} {opening closing : Region} {input after : Input}
    {value : α} (isRead : within inner opening closing parser input = .ok (value, after)) :
    after.rest = input.rest ∧
      ∃ inside left, inside.rest = inner ∧ parser inside = .ok (value, left) := by
  obtain ⟨outer, _, isGet, isRead⟩ := bind_eq_ok_iff.mp isRead
  obtain ⟨_, inside, isInside, isRead⟩ := bind_eq_ok_iff.mp isRead
  obtain ⟨found, left, isFound, isRead⟩ := bind_eq_ok_iff.mp isRead
  obtain ⟨last, _, -, isRead⟩ := bind_eq_ok_iff.mp isRead
  cases isRead
  cases isGet
  cases isInside
  exact ⟨rfl, _, left, rfl, isFound⟩

@[grind ←]
theorem advances_within (inner : List Tree) (opening closing : Region) (parser : Parser α) :
    (within inner opening closing parser).Advances where
  suffix := by
    intro input after value isRead
    obtain ⟨same, -⟩ := inside_of_within isRead
    exact same ▸ List.suffix_refl _

@[grind ←]
theorem advances_inGroup (delimiter : Delimiter) (parser : Parser α) :
    (inGroup delimiter parser).Advances := by
  unfold inGroup
  grind

end Parts

section Loops

variable {σ : Type} {step : σ → Parser (Step σ β)} {item : Parser α}

theorem advances_loopAtMost (advances : ∀ state, (step state).Advances) (fuel : Nat)
    (state : σ) : (loopAtMost step fuel state).Advances := by
  induction fuel generalizing state with
  | zero => exact advances_malformed
  | succ fuel ih =>
      constructor
      intro input after result isRead
      rcases loopAtMost_succ_eq_ok_iff.mp isRead with ⟨next, middle, isStep, goesOn⟩ | isStep
      · exact ((ih next).suffix goesOn).trans ((advances state).suffix isStep)
      · exact (advances state).suffix isStep

@[grind ←]
theorem advances_loop (advances : ∀ state, (step state).Advances) (start : σ) :
    (loop step start).Advances :=
  advances_bind advances_look fun _ => advances_loopAtMost advances _ start

@[grind ←]
theorem advances_separatedUntil (separator : String) (stop : List Tree → Bool)
    (advances : item.Advances) : (separatedUntil separator stop item).Advances := by
  unfold separatedUntil
  grind

@[grind ←]
theorem advances_commaSeparated (advances : item.Advances) : (commaSeparated item).Advances :=
  advances_separatedUntil "," List.isEmpty advances

@[grind ←]
theorem advances_joinedBy (separator : String) (stop : List Tree → Bool) {item : Parser Unit}
    (advances : item.Advances) : (joinedBy separator stop item).Advances := by
  unfold joinedBy
  grind

@[grind ←]
theorem advances_whileLooking (condition : List Tree → Bool) (advances : item.Advances) :
    (whileLooking condition item).Advances := by
  unfold whileLooking
  grind

@[grind ←]
theorem advances_toEnd (advances : item.Advances) : (toEnd item).Advances :=
  advances_whileLooking _ advances

end Loops

section Attributes

@[grind ←]
theorem advances_plainPath : plainPath.Advances := by
  unfold plainPath
  grind

@[grind ←]
theorem advances_outerAttribute (expression : Parser Unit) :
    (outerAttribute expression).Advances := by
  unfold outerAttribute
  grind +splitImp

@[grind ←]
theorem advances_outerAttributes (expression : Parser Unit) :
    (outerAttributes expression).Advances :=
  advances_whileLooking _ (advances_outerAttribute expression)

@[grind ←]
theorem advances_innerAttribute (expression : Parser Unit) :
    (innerAttribute expression).Advances := by
  unfold innerAttribute
  grind +splitImp

@[grind ←]
theorem advances_innerAttributes (expression : Parser Unit) :
    (innerAttributes expression).Advances :=
  advances_whileLooking _ (advances_innerAttribute expression)

end Attributes

end NativeBridge.Source.Parser
