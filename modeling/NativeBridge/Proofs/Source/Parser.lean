import NativeBridge.Source.File
import NativeBridge.Proofs.Outcome

/-!
# What parsers read

A parser that succeeds has read some trees from the front of its input. For each
parser the trees are given that it reads and what it makes of them, so that a
reader can be compared with the form in which things are written. Of the input
only the trees left and the region read last have changed then (`Input.onward`).
-/

namespace NativeBridge.Source

variable {α β : Type} {input after : Input}

/-- The input with these trees left, after something in a region was read. -/
def Input.onward (input : Input) (rest : List Tree) (last : Region) : Input :=
  { input with rest := rest, last := last }

@[simp]
theorem Input.rest_onward (rest : List Tree) (last : Region) :
    (input.onward rest last).rest = rest :=
  rfl

@[simp]
theorem Input.leftover_onward (rest : List Tree) (last : Region) :
    (input.onward rest last).leftover = input.leftover :=
  rfl

/-- Of two steps onward the second counts. -/
@[simp]
theorem Input.onward_onward (first second : List Tree) (earlier last : Region) :
    (input.onward first earlier).onward second last = input.onward second last :=
  rfl

/-- Without a step the input stays. -/
theorem Input.onward_self : input.onward input.rest input.last = input :=
  rfl

namespace Parser

/-- Parsers one after the other succeed when each of them does. -/
theorem bind_eq_ok_iff {first : Parser α} {next : α → Parser β} {result : β} :
    (first >>= next) input = .ok (result, after) ↔
      ∃ value middle, first input = .ok (value, middle) ∧
        next value middle = .ok (result, after) := by
  have opened : (first >>= next) input
      = (first input >>= fun (value, middle) => next value middle) := rfl
  rw [opened, Outcome.bind_eq_ok_iff]
  exact Prod.exists

/-- A value by itself reads nothing. -/
theorem pure_eq_ok_iff {value result : α} :
    (pure value : Parser α) input = .ok (result, after) ↔ value = result ∧ input = after := by
  have opened : (pure value : Parser α) input = .ok (value, input) := rfl
  rw [opened]
  simp

/-- A look at the input reads nothing. -/
theorem peek_eq_ok_iff {condition : List Tree → Bool} {found : Bool} :
    peek condition input = .ok (found, after) ↔ condition input.rest = found ∧ input = after :=
  pure_eq_ok_iff

/-- Who gives up does not succeed. -/
theorem failAt_ne_ok {complaint : Complaint} {place : Option Region} {result : α} :
    (failAt complaint place : Parser α) input ≠ .ok (result, after) :=
  nofun

/-- Who gives up at the front of the input does not succeed. -/
theorem fail_ne_ok {complaint : Complaint} {result : α} :
    (fail complaint : Parser α) input ≠ .ok (result, after) :=
  nofun

/-- Who gives up with a message about the end does not succeed. -/
theorem failSaying_ne_ok {complaint : Complaint} {result : α} :
    (failSaying complaint : Parser α) input ≠ .ok (result, after) :=
  nofun

/-- A step after a look at the input depends on what is seen. -/
theorem peek_bind {condition : List Tree → Bool} {next : Bool → Parser α} :
    (peek condition >>= next) input = next (condition input.rest) input :=
  rfl

theorem look_bind {next : List Tree → Parser α} :
    (look >>= next) input = next input.rest input :=
  rfl

/-- The first tree is read. -/
theorem tree_of_rest {found : Tree} {rest : List Tree} (isRest : input.rest = found :: rest) :
    tree input = .ok (found, input.onward rest found.region) := by
  obtain ⟨_, scope, last, leftover⟩ := input
  cases isRest
  rfl

/-- One tree is read from the front. -/
theorem tree_eq_ok_iff {found : Tree} :
    tree input = .ok (found, after) ↔
      ∃ rest, input.rest = found :: rest ∧ after = input.onward rest found.region := by
  constructor
  · intro isTree
    obtain ⟨_ | ⟨first, rest⟩, scope, last, leftover⟩ := input
    · exact absurd isTree nofun
    · cases isTree
      exact ⟨rest, rfl, rfl⟩
  · rintro ⟨rest, isRest, rfl⟩
    exact tree_of_rest isRest

/-- A single punctuation character is seen whether or not another one follows directly. -/
theorem look_punct_iff {token : String} {c : Char} {trees : List Tree}
    (single : token.toList = [c]) :
    Look.punct token trees = true ↔
      ∃ joint region rest, trees = .punct c joint region :: rest := by
  rw [Look.punct, single]
  cases trees with
  | nil => simp [Look.punctChars]
  | cons found rest =>
      cases found with
      | punct d joint region =>
          simp only [Look.punctChars, beq_iff_eq]
          constructor
          · rintro rfl
            exact ⟨joint, region, rest, rfl⟩
          · rintro ⟨_, _, _, same⟩
            cases same
            rfl
      | name | literal | group => simp [Look.punctChars]

/-- A single punctuation character is read as it is seen. -/
theorem punct_eq_ok_iff {token : String} {c : Char} (single : token.toList = [c]) :
    punct token input = .ok ((), after) ↔
      ∃ joint region rest, input.rest = .punct c joint region :: rest ∧
        after = input.onward rest region := by
  have skips : skip token.toList = (tree >>= fun _ => pure ()) := by rw [single]; rfl
  rw [punct, peek_bind]
  cases seen : Look.punct token input.rest with
  | false =>
      simp only [Bool.false_eq_true, if_false, fail_ne_ok, false_iff]
      rintro ⟨joint, region, rest, isRest, -⟩
      have found : Look.punct token input.rest = true :=
        (look_punct_iff single).mpr ⟨joint, region, rest, isRest⟩
      cases seen.symm.trans found
  | true =>
      simp only [if_true, skips, bind_eq_ok_iff, tree_eq_ok_iff, pure_eq_ok_iff]
      obtain ⟨joint, region, rest, isRest⟩ := (look_punct_iff single).mp seen
      rw [isRest]
      constructor
      · rintro ⟨_, _, ⟨_, same, rfl⟩, -, rfl⟩
        cases same
        exact ⟨joint, region, rest, rfl, rfl⟩
      · rintro ⟨_, _, _, same, rfl⟩
        cases same
        exact ⟨_, _, ⟨rest, rfl, rfl⟩, trivial, rfl⟩

/-- Punctuation is passed over exactly if it is not there. -/
theorem punct?_eq_ok_false_iff {token : String} :
    punct? token input = .ok (false, after) ↔
      Look.punct token input.rest = false ∧ after = input := by
  rw [punct?, peek_bind]
  cases Look.punct token input.rest with
  | true => simp only [if_true, bind_eq_ok_iff, pure_eq_ok_iff]; simp
  | false =>
      simp only [Bool.false_eq_true, if_false, pure_eq_ok_iff, true_and]
      exact eq_comm

/-- A word is read from the front. -/
theorem anyWord_eq_ok_iff {found : Name} :
    anyWord input = .ok (found, after) ↔
      ∃ rest, input.rest = .name found.text found.region :: rest ∧
        after = input.onward rest found.region := by
  constructor
  · intro isWord
    obtain ⟨_ | ⟨first, rest⟩, scope, last, leftover⟩ := input
    · cases isWord
    · cases first with
      | name text region =>
          cases isWord
          exact ⟨rest, rfl, rfl⟩
      | punct | literal | group => cases isWord
  · rintro ⟨rest, isRest, rfl⟩
    obtain ⟨_, scope, last, leftover⟩ := input
    cases isRest
    rfl

/-- A string literal is read from the front as its value. -/
theorem string_eq_ok_iff {found : String × Region} :
    string input = .ok (found, after) ↔
      ∃ text rest, input.rest = .literal (.string found.1) text found.2 :: rest ∧
        after = input.onward rest found.2 := by
  constructor
  · intro isString
    obtain ⟨_ | ⟨first, rest⟩, scope, last, leftover⟩ := input
    · cases isString
    · cases first with
      | literal value text region =>
          cases value with
          | string =>
              cases isString
              exact ⟨text, rest, rfl, rfl⟩
          | _ => cases isString
      | name | punct | group => cases isString
  · rintro ⟨text, rest, isRest, rfl⟩
    obtain ⟨_, scope, last, leftover⟩ := input
    cases isRest
    rfl

section Loops

variable {σ : Type} {step : σ → Parser (Step σ β)}

/-- A loop goes on or ends after each of its steps. -/
theorem loopAtMost_succ_eq_ok_iff {fuel : Nat} {state : σ} {result : β} :
    loopAtMost step (fuel + 1) state input = .ok (result, after) ↔
      (∃ next middle, step state input = .ok (.again next, middle) ∧
        loopAtMost step fuel next middle = .ok (result, after)) ∨
      step state input = .ok (.done result, after) := by
  rw [loopAtMost, bind_eq_ok_iff]
  constructor
  · rintro ⟨next | found, middle, isStep, goesOn⟩
    · exact .inl ⟨next, middle, isStep, goesOn⟩
    · obtain ⟨rfl, rfl⟩ := pure_eq_ok_iff.mp goesOn
      exact .inr isStep
  · rintro (⟨next, middle, isStep, goesOn⟩ | isStep)
    · exact ⟨_, middle, isStep, goesOn⟩
    · exact ⟨_, after, isStep, rfl⟩

/-- Without steps left a loop does not succeed. -/
theorem loopAtMost_zero_ne_ok {state : σ} {result : β} :
    loopAtMost step 0 state input ≠ .ok (result, after) :=
  fail_ne_ok

end Loops

section Repetition

variable {condition : List Tree → Bool} {item : Parser α}

/-- A step of reading items while a condition holds. -/
def whileStep (condition : List Tree → Bool) (item : Parser α) (found : List α) :
    Parser (Step (List α) (List α)) := do
  if ← peek condition then return .again ((← item) :: found)
  else return .done found.reverse

/-- While the condition holds, an item is read. -/
theorem whileStep_eq_again_iff {found next : List α} :
    whileStep condition item found input = .ok (.again next, after) ↔
      condition input.rest = true ∧
        ∃ value, item input = .ok (value, after) ∧ next = value :: found := by
  rw [whileStep, peek_bind]
  cases condition input.rest with
  | true =>
      simp only [if_true, bind_eq_ok_iff, pure_eq_ok_iff, Step.again.injEq, true_and]
      constructor
      · rintro ⟨value, _, isItem, rfl, rfl⟩
        exact ⟨value, isItem, rfl⟩
      · rintro ⟨value, isItem, rfl⟩
        exact ⟨value, after, isItem, rfl, rfl⟩
  | false => simp [pure_eq_ok_iff]

/-- When the condition fails, the items are complete. -/
theorem whileStep_eq_done_iff {found result : List α} :
    whileStep condition item found input = .ok (.done result, after) ↔
      condition input.rest = false ∧ result = found.reverse ∧ after = input := by
  rw [whileStep, peek_bind]
  cases condition input.rest with
  | true => simp only [if_true, bind_eq_ok_iff, pure_eq_ok_iff]; simp
  | false =>
      simp only [Bool.false_eq_true, if_false, pure_eq_ok_iff, Step.done.injEq, true_and]
      simp only [eq_comm]

/-- What was found while the condition holds is found in the end. -/
theorem length_le_of_whileStep {fuel : Nat} {found result : List α}
    (isLoop : loopAtMost (whileStep condition item) fuel found input = .ok (result, after)) :
    found.length ≤ result.length := by
  induction fuel generalizing found input with
  | zero => exact absurd isLoop loopAtMost_zero_ne_ok
  | succ fuel ih =>
      rcases loopAtMost_succ_eq_ok_iff.mp isLoop with ⟨next, middle, isStep, goesOn⟩ | isStep
      · obtain ⟨-, value, -, rfl⟩ := whileStep_eq_again_iff.mp isStep
        have longer := ih goesOn
        rw [List.length_cons] at longer
        omega
      · obtain ⟨-, rfl, -⟩ := whileStep_eq_done_iff.mp isStep
        exact Nat.le_of_eq List.length_reverse.symm

/-- No item is read exactly if the condition fails at once. -/
theorem whileLooking_eq_ok_nil_iff :
    whileLooking condition item input = .ok ([], after) ↔
      condition input.rest = false ∧ after = input := by
  have opened : whileLooking condition item input
      = loopAtMost (whileStep condition item) (input.rest.length + 1) [] input := rfl
  rw [opened, loopAtMost_succ_eq_ok_iff, whileStep_eq_done_iff]
  constructor
  · rintro (⟨next, middle, isStep, goesOn⟩ | ⟨fails, -, same⟩)
    · obtain ⟨-, value, -, rfl⟩ := whileStep_eq_again_iff.mp isStep
      exact absurd (length_le_of_whileStep goesOn) (by simp)
    · exact ⟨fails, same⟩
  · rintro ⟨fails, same⟩
    exact .inr ⟨fails, rfl, same⟩

end Repetition

end Parser

/-- Trees in which items are separated by commas; one more comma may follow the last item. -/
inductive CommaSeparated (written : α → List Tree → Prop) : List α → List Tree → Prop where
  | nil : CommaSeparated written [] []
  | last {item : α} {trees : List Tree} (isItem : written item trees) :
      CommaSeparated written [item] trees
  | cons {item : α} {items : List α} {trees rest : List Tree} {joint : Bool} {region : Region}
      (isItem : written item trees) (others : CommaSeparated written items rest) :
      CommaSeparated written (item :: items) (trees ++ .punct ',' joint region :: rest)

/-- Nothing follows an item, or a comma does. -/
inductive EndsItem : List Tree → Prop where
  | nil : EndsItem []
  | comma {joint : Bool} {region : Region} {rest : List Tree} :
      EndsItem (.punct ',' joint region :: rest)

/-- No separator of a path follows an item. -/
theorem EndsItem.unseen {rest : List Tree} (ends : EndsItem rest) :
    Look.punct "::" rest = false := by
  cases ends <;> rfl

namespace Parser

/-- A parser reads items of a written form. -/
structure Reads (item : Parser α) (written : α → List Tree → Prop) : Prop where
  /-- What is read is written so. -/
  sound : ∀ {input after : Input} {value : α}, item input = .ok (value, after) →
    ∃ trees last, written value trees ∧ input.rest = trees ++ after.rest ∧
      after = input.onward after.rest last
  /-- What is written so is read if nothing more belongs to it. -/
  complete : ∀ {input : Input} {value : α} {trees rest : List Tree}, written value trees →
    input.rest = trees ++ rest → EndsItem rest →
      ∃ last, item input = .ok (value, input.onward rest last)
  /-- An item is written with some trees. -/
  ne_nil : ∀ {value : α} {trees : List Tree}, written value trees → trees ≠ []

section Commas

variable {written : α → List Tree → Prop} {item : Parser α}

/-- A step of reading items between commas. -/
def commaStep (item : Parser α) (found : List α) : Parser (Step (List α) (List α)) := do
  if ← peek List.isEmpty then return .done found.reverse
  let value ← item
  if ← peek List.isEmpty then return .done (value :: found).reverse
  punct ","
  return .again (value :: found)

theorem commaSeparated_eq :
    commaSeparated item input
      = loopAtMost (commaStep item) (input.rest.length + 1) [] input :=
  rfl

/-- After an item and a comma the reading goes on. -/
theorem commaStep_eq_again_iff {found next : List α} :
    commaStep item found input = .ok (.again next, after) ↔
      input.rest ≠ [] ∧ ∃ value middle joint region rest, item input = .ok (value, middle) ∧
        middle.rest = .punct ',' joint region :: rest ∧ next = value :: found ∧
          after = middle.onward rest region := by
  rw [commaStep, peek_bind]
  cases isRest : input.rest with
  | nil => simp [pure_eq_ok_iff]
  | cons first trees =>
      simp only [List.isEmpty_cons, Bool.false_eq_true, if_false, bind_eq_ok_iff, peek_eq_ok_iff]
      constructor
      · rintro ⟨value, middle, isItem, _, _, ⟨rfl, rfl⟩, goesOn⟩
        cases left : middle.rest with
        | nil => simp [left, pure_eq_ok_iff] at goesOn
        | cons next more =>
            simp only [left, List.isEmpty_cons, Bool.false_eq_true, if_false, bind_eq_ok_iff,
              punct_eq_ok_iff (rfl : ",".toList = [',']), pure_eq_ok_iff] at goesOn
            obtain ⟨_, _, ⟨joint, region, rest, same, rfl⟩, stays, rfl⟩ := goesOn
            cases stays
            refine ⟨nofun, value, middle, joint, region, rest, isItem, left ▸ same, rfl, rfl⟩
      · rintro ⟨-, value, middle, joint, region, rest, isItem, left, rfl, rfl⟩
        refine ⟨value, middle, isItem, _, _, ⟨rfl, rfl⟩, ?_⟩
        simp only [left, List.isEmpty_cons, Bool.false_eq_true, if_false, bind_eq_ok_iff,
              punct_eq_ok_iff (rfl : ",".toList = [',']), pure_eq_ok_iff]
        exact ⟨(), _, ⟨joint, region, rest, rfl, rfl⟩, trivial, rfl⟩

/-- At the end of the input the items are complete. -/
theorem commaStep_eq_done_iff {found result : List α} :
    commaStep item found input = .ok (.done result, after) ↔
      (input.rest = [] ∧ result = found.reverse ∧ after = input) ∨
      (input.rest ≠ [] ∧ ∃ value, item input = .ok (value, after) ∧ after.rest = [] ∧
        result = (value :: found).reverse) := by
  rw [commaStep, peek_bind]
  cases isRest : input.rest with
  | nil =>
      simp only [List.isEmpty_nil, if_true, pure_eq_ok_iff, Step.done.injEq]
      simp [eq_comm]
  | cons first trees =>
      simp only [List.isEmpty_cons, Bool.false_eq_true, if_false, bind_eq_ok_iff, peek_eq_ok_iff]
      constructor
      · rintro ⟨value, middle, isItem, _, _, ⟨rfl, rfl⟩, goesOn⟩
        cases left : middle.rest with
        | nil =>
            simp only [left, List.isEmpty_nil, if_true, pure_eq_ok_iff] at goesOn
            obtain ⟨same, rfl⟩ := goesOn
            cases same
            exact .inr ⟨nofun, value, isItem, left, rfl⟩
        | cons next more =>
            simp only [left, List.isEmpty_cons, Bool.false_eq_true, if_false, bind_eq_ok_iff,
              pure_eq_ok_iff] at goesOn
            simp at goesOn
      · rintro (⟨none, -⟩ | ⟨-, value, isItem, left, rfl⟩)
        · cases none
        · refine ⟨value, after, isItem, _, _, ⟨rfl, rfl⟩, ?_⟩
          simp only [left, List.isEmpty_nil, if_true, pure_eq_ok_iff]
          exact ⟨trivial, trivial⟩

/-- Items between commas to the end of the input are written so. -/
theorem commaSeparated_of_loop (reads : Reads item written) {fuel : Nat} {found result : List α}
    (isLoop : loopAtMost (commaStep item) fuel found input = .ok (result, after)) :
    ∃ items last, result = found.reverse ++ items ∧
      CommaSeparated written items input.rest ∧ after = input.onward [] last := by
  induction fuel generalizing found input with
  | zero => exact absurd isLoop loopAtMost_zero_ne_ok
  | succ fuel ih =>
      rcases loopAtMost_succ_eq_ok_iff.mp isLoop with ⟨next, middle, isStep, goesOn⟩ | isStep
      · obtain ⟨-, value, middle, joint, region, rest, isItem, left, rfl, rfl⟩ :=
          commaStep_eq_again_iff.mp isStep
        obtain ⟨trees, earlier, isWritten, isRest, onward⟩ := reads.sound isItem
        obtain ⟨items, last, rfl, others, rfl⟩ := ih goesOn
        refine ⟨value :: items, last, by simp, ?_, by rw [onward]; simp⟩
        rw [isRest, left]
        exact .cons isWritten others
      · rcases commaStep_eq_done_iff.mp isStep with
          ⟨isRest, rfl, rfl⟩ | ⟨-, value, isItem, left, rfl⟩
        · exact ⟨[], after.last, by simp, isRest ▸ .nil, isRest ▸ rfl⟩
        · obtain ⟨trees, last, isWritten, isRest, onward⟩ := reads.sound isItem
          rw [left] at isRest onward
          refine ⟨[value], last, by simp, ?_, onward⟩
          rw [isRest, List.append_nil]
          exact .last isWritten

/-- Items written between commas are read to the end of the input. -/
theorem loop_of_commaSeparated (reads : Reads item written) {items : List α} {trees : List Tree}
    (separated : CommaSeparated written items trees) {fuel : Nat} (found : List α)
    (isRest : input.rest = trees) (enough : trees.length < fuel) :
    ∃ last, loopAtMost (commaStep item) fuel found input
      = .ok (found.reverse ++ items, input.onward [] last) := by
  induction separated generalizing fuel found input with
  | nil =>
      obtain ⟨fuel, rfl⟩ := Nat.exists_eq_succ_of_ne_zero (Nat.ne_zero_of_lt enough)
      refine ⟨input.last, loopAtMost_succ_eq_ok_iff.mpr (.inr ?_)⟩
      refine commaStep_eq_done_iff.mpr (.inl ⟨isRest, by simp, ?_⟩)
      rw [← isRest, Input.onward_self]
  | last isItem =>
      obtain ⟨fuel, rfl⟩ := Nat.exists_eq_succ_of_ne_zero (Nat.ne_zero_of_lt enough)
      obtain ⟨last, isRead⟩ := reads.complete isItem (by rw [isRest, List.append_nil]) .nil
      refine ⟨last, loopAtMost_succ_eq_ok_iff.mpr (.inr ?_)⟩
      refine commaStep_eq_done_iff.mpr (.inr ⟨isRest ▸ reads.ne_nil isItem, _, isRead, rfl, ?_⟩)
      simp
  | @cons value items trees rest joint region isItem others ih =>
      obtain ⟨fuel, rfl⟩ := Nat.exists_eq_succ_of_ne_zero (Nat.ne_zero_of_lt enough)
      obtain ⟨earlier, isRead⟩ := reads.complete isItem isRest .comma
      have isStep : commaStep item found input
          = .ok (.again (value :: found), input.onward rest region) :=
        commaStep_eq_again_iff.mpr
          ⟨by simp [isRest], value, _, joint, region, rest, isRead, rfl, rfl, rfl⟩
      rw [List.length_append, List.length_cons] at enough
      have shorter : rest.length < fuel := by omega
      obtain ⟨last, goesOn⟩ := ih (value :: found) (input.rest_onward rest region) shorter
      refine ⟨last, loopAtMost_succ_eq_ok_iff.mpr (.inl ⟨_, _, isStep, ?_⟩)⟩
      rw [goesOn]
      simp

/-- Items between commas are read to the end of the input exactly if they are written so. -/
theorem exists_commaSeparated_iff (reads : Reads item written) {items : List α} :
    (∃ after, commaSeparated item input = .ok (items, after)) ↔
      CommaSeparated written items input.rest := by
  rw [commaSeparated_eq]
  constructor
  · rintro ⟨after, isLoop⟩
    obtain ⟨_, last, rfl, separated, -⟩ := commaSeparated_of_loop reads isLoop
    exact separated
  · intro separated
    obtain ⟨last, isLoop⟩ := loop_of_commaSeparated reads separated [] rfl (Nat.lt_succ_self _)
    exact ⟨_, isLoop⟩

/-- Nothing is left after items between commas. -/
theorem onward_of_commaSeparated (reads : Reads item written) {items : List α}
    (isRead : commaSeparated item input = .ok (items, after)) :
    ∃ last, after = input.onward [] last := by
  obtain ⟨_, last, -, -, onward⟩ := commaSeparated_of_loop reads isRead
  exact ⟨last, onward⟩

/-- Trees as a whole are items between commas exactly if they are written so. -/
theorem readTrees_commaSeparated_eq_ok_iff {item : Grammar → Parser α}
    (reads : ∀ grammar, Reads (item grammar) written) {trees : List Tree} {scope : Region}
    {items : List α} :
    readTrees (fun grammar => commaSeparated (item grammar)) trees scope = .ok items ↔
      CommaSeparated written items trees := by
  have separated : (∃ after, commaSeparated (item (.forTrees trees)) (.ofTrees trees)
      = .ok (items, after)) ↔ CommaSeparated written items trees :=
    exists_commaSeparated_iff (reads _)
  refine Iff.trans ?_ separated
  rw [readTrees, runOn]
  cases isRead : commaSeparated (item (.forTrees trees)) (.ofTrees trees) with
  | error stop => simp
  | ok result =>
      obtain ⟨found, after⟩ := result
      obtain ⟨last, rfl⟩ := onward_of_commaSeparated (reads _) isRead
      simp [Input.ofTrees]

end Commas

end Parser

end NativeBridge.Source
