import NativeBridge.Proofs.Source.Grammar
import NativeBridge.Proofs.Source.Names

/-!
# What parsers make of names

Parsers only move forward, so whatever is read anywhere in a file is read from the trees of
that file, and among those every name is one. What is kept of the names is followed through
the rules: those of traits and of their methods are names of the text.
-/

namespace NativeBridge.Source

/-- Every name that is left to read is one. -/
def Input.Named (input : Input) : Prop :=
  ∀ tree ∈ input.rest, tree.Named

namespace Parser

variable {α β : Type} {parser : Parser α} {kind : α → Prop}

/-- Where every name is one, the parser only makes results of a kind. -/
structure Yields (parser : Parser α) (kind : α → Prop) : Prop where
  sound : ∀ {input after : Input} {value : α}, input.Named →
    parser input = .ok (value, after) → kind value

theorem Advances.named (advances : parser.Advances) {input after : Input} {value : α}
    (named : input.Named) (isRead : parser input = .ok (value, after)) : after.Named :=
  fun tree isTree => named tree ((advances.suffix isRead).subset isTree)

/-- What the second of two parsers makes may depend on what the first one has made. -/
theorem yields_bind {first : Parser β} {next : β → Parser α} {before : β → Prop}
    (advances : first.Advances) (isFirst : first.Yields before)
    (isNext : ∀ value, before value → (next value).Yields kind) : (first >>= next).Yields kind where
  sound := by
    intro input after result named isRead
    obtain ⟨value, middle, readFirst, readNext⟩ := bind_eq_ok_iff.mp isRead
    exact (isNext value (isFirst.sound named readFirst)).sound (advances.named named readFirst)
      readNext

/-- What the last parser makes is what all of them make. -/
theorem yields_after {first : Parser β} {next : β → Parser α} (advances : first.Advances)
    (isNext : ∀ value, (next value).Yields kind) : (first >>= next).Yields kind :=
  yields_bind advances (⟨fun _ _ => trivial⟩ : first.Yields fun _ => True) fun value _ =>
    isNext value

theorem yields_pure {value : α} (isKind : kind value) : (pure value : Parser α).Yields kind where
  sound := by
    intro input after result _ isRead
    rwa [← (pure_eq_ok_iff.mp isRead).1]

theorem yields_ite {condition : Prop} [Decidable condition] {first second : Parser α}
    (isFirst : first.Yields kind) (isSecond : second.Yields kind) :
    (if condition then first else second).Yields kind := by
  split
  · exact isFirst
  · exact isSecond

theorem yields_failAt {complaint : Complaint} {place : Option Region} :
    (failAt complaint place : Parser α).Yields kind :=
  ⟨fun _ isRead => absurd isRead failAt_ne_ok⟩

theorem yields_name : name.Yields fun found => IsName found.text where
  sound := by
    intro input after found named isRead
    obtain ⟨_ | ⟨first, rest⟩, scope, last, leftover⟩ := input
    · cases isRead
    · cases first with
      | name text region =>
          rw [name, look_bind] at isRead
          dsimp only at isRead
          split at isRead
          · cases isRead
          · cases isRead
            cases named _ List.mem_cons_self with
            | name isName => exact isName
      | punct | literal | group => cases isRead

theorem yields_located (yields : parser.Yields kind) :
    (located parser).Yields fun found => kind found.1 :=
  yields_after advances_get fun _ => ⟨fun named isRead => by
    obtain ⟨value, middle, readValue, isRead⟩ := bind_eq_ok_iff.mp isRead
    cases isRead
    exact yields.sound named readValue⟩

theorem yields_sliced (yields : parser.Yields kind) :
    (sliced parser).Yields fun found => kind found.1 :=
  yields_after advances_look fun _ => ⟨fun named isRead => by
    obtain ⟨value, middle, readValue, isRead⟩ := bind_eq_ok_iff.mp isRead
    cases isRead
    exact yields.sound named readValue⟩

/-- Inside a group every name is one. -/
theorem yields_inGroup (delimiter : Delimiter) (yields : parser.Yields kind) :
    (inGroup delimiter parser).Yields kind where
  sound := by
    intro input after value named isRead
    obtain ⟨_ | ⟨first, rest⟩, scope, last, leftover⟩ := input
    · cases isRead
    · cases first with
      | group found inner opening closing =>
          have each : ∀ tree ∈ inner, tree.Named := by
            cases named _ List.mem_cons_self with
            | group each => exact each
          rw [inGroup, look_bind] at isRead
          dsimp only at isRead
          split at isRead
          · obtain ⟨_, _, -, isRead⟩ := bind_eq_ok_iff.mp isRead
            obtain ⟨-, inside, _, isInner, readInside⟩ := inside_of_within isRead
            exact yields.sound (fun tree isTree => each tree (isInner ▸ isTree)) readInside
          · cases isRead
      | name | punct | literal => cases isRead

/-- All items of a sequence are of the kind of one. -/
theorem yields_whileLooking {condition : List Tree → Bool} (advances : parser.Advances)
    (yields : parser.Yields kind) :
    (whileLooking condition parser).Yields fun found => ∀ value ∈ found, kind value := by
  have loop : ∀ fuel found, (∀ value ∈ found, kind value) →
      (loopAtMost (whileStep condition parser) fuel found).Yields fun found =>
        ∀ value ∈ found, kind value := by
    intro fuel
    induction fuel with
    | zero => exact fun _ _ => ⟨fun _ isRead => absurd isRead loopAtMost_zero_ne_ok⟩
    | succ fuel ih =>
        refine fun found soFar => ⟨fun named isRead => ?_⟩
        rcases loopAtMost_succ_eq_ok_iff.mp isRead with ⟨next, middle, isStep, goesOn⟩ | isStep
        · obtain ⟨-, value, isItem, rfl⟩ := whileStep_eq_again_iff.mp isStep
          have each := List.forall_mem_cons.mpr ⟨yields.sound named isItem, soFar⟩
          exact (ih _ each).sound (advances.named named isItem) goesOn
        · obtain ⟨-, rfl, -⟩ := whileStep_eq_done_iff.mp isStep
          exact fun value isValue => soFar value (List.mem_reverse.mp isValue)
  exact yields_after advances_look fun _ => loop _ [] (List.forall_mem_nil _)

end Parser

open NativeBridge.Source.Parser

/-- The name of a member of a trait is one if it is a method. -/
def TraitItemForm.Named : TraitItemForm → Prop
  | .method form => IsName form.name.text
  | .other _ _ => True

/-- The name of a trait and those of its methods are names. -/
structure TraitForm.Named (form : TraitForm) : Prop where
  name : IsName form.name.text
  members : ∀ member ∈ form.items, member.Named

/-- The names of the traits in an item, and those of their methods, are names. -/
inductive ItemForm.Named : ItemForm → Prop where
  | struct {form : StructForm} : Named (.struct form)
  | enumeration {form : EnumForm} : Named (.enumeration form)
  | trait {form : TraitForm} (named : form.Named) : Named (.trait form)
  | module {name : Name} {items : List ItemForm} (each : ∀ item ∈ items, item.Named) :
      Named (.module name items)
  | other : Named .other

namespace Grammar

variable {grammar : Grammar}

/-- Who gives up makes nothing. -/
theorem yields_malformedBefore {α : Type} {kind : α → Prop} (trees : List Tree) :
    (malformedBefore trees : Parser α).Yields kind := by
  cases trees with
  | nil => exact yields_after advances_get fun _ => yields_failAt
  | cons tree rest => exact yields_failAt

theorem yields_signatureHead (allowSafe : Bool) :
    (signatureHead allowSafe).Yields fun found => IsName found.2.text := by
  refine yields_after (advances_word? "const") fun _ => ?_
  refine yields_after advances_here fun start => ?_
  refine yields_after (advances_word? "async") fun isAsync => ?_
  extract_lets afterUnsafe afterSafe
  have named : (afterUnsafe ()).Yields fun found => IsName found.2.text := by
    refine yields_after advances_convention? fun _ => ?_
    refine yields_after (advances_word "fn") fun _ => ?_
    exact yields_bind advances_name yields_name fun found isName => yields_pure isName
  have either (isSafe) : (afterSafe isSafe).Yields fun found => IsName found.2.text :=
    yields_ite (yields_after (advances_word? "unsafe") fun _ => named) named
  refine yields_ite ?_ ?_
  · exact yields_after (advances_word? "safe") either
  · exact yields_after (advances_pure false) either

theorem yields_signature (deeper : grammar.Advances) (allowSafe : Bool) :
    (signature grammar allowSafe).Yields fun found => IsName found.name.text := by
  refine yields_bind (advances_sliced (advances_signatureHead allowSafe))
    (yields_sliced (yields_signatureHead allowSafe)) fun ⟨⟨_, found⟩, head⟩ isName => ?_
  refine yields_after (advances_generics deeper) fun generics => ?_
  refine yields_after (advances_inGroup _ _) fun arguments => ?_
  refine yields_after (advances_sliced (advances_result deeper true)) fun _ => ?_
  refine yields_after (advances_conditions deeper) fun conditions => ?_
  exact yields_pure isName

theorem yields_traitMethod (deeper : grammar.Advances) (attrs : List Attribute) :
    (traitMethod grammar attrs).Yields fun found => IsName found.name.text := by
  refine yields_bind (advances_signature deeper false) (yields_signature deeper false)
    fun found isName => ?_
  refine yields_after advances_here fun start => ?_
  refine yields_after (advances_peek _) fun hasBody => ?_
  refine yields_after (advances_sliced advances_bodyOrSemicolon) fun _ => ?_
  exact yields_pure isName

theorem yields_traitMemberBody (deeper : grammar.Advances) (attrs : List Attribute) :
    (traitMemberBody grammar attrs).Yields fun found =>
      ∀ method ∈ found, IsName method.name.text := by
  refine yields_after (advances_foreseen _) fun (isMarked, trees) => ?_
  extract_lets readMarks
  have marks : readMarks.Advances := by grind
  refine yields_ite ?_ (yields_ite ?_ (yields_ite ?_ (yields_ite ?_ ?_)))
  · refine yields_after marks fun _ => ?_
    refine yields_bind (advances_traitMethod deeper attrs) (yields_traitMethod deeper attrs)
      fun method isName => yields_pure ?_
    cases isMarked with
    | true => exact nofun
    | false => exact fun _ isMethod => Option.some.inj isMethod ▸ isName
  · refine yields_after marks fun _ => ?_
    exact yields_after (advances_constantDefinition deeper) fun _ => yields_pure nofun
  · refine yields_after marks fun _ => ?_
    exact yields_after (advances_typeDefinition deeper _ _) fun _ => yields_pure nofun
  · exact yields_after advances_invocation fun _ => yields_pure nofun
  · exact yields_malformedBefore trees

theorem yields_traitMember (deeper : grammar.Advances) :
    (traitMember grammar).Yields TraitItemForm.Named := by
  have body : Yields (do traitMemberBody grammar (← grammar.attrs)) fun found =>
      ∀ method ∈ found, IsName method.name.text :=
    yields_after advances_attrs fun attrs => yields_traitMemberBody deeper attrs
  refine yields_bind ?_ (yields_located (yields_sliced body))
    fun ⟨⟨found, trees⟩, region⟩ each => ?_
  · grind
  · cases found with
    | none => exact yields_pure trivial
    | some method => exact yields_pure (each method rfl)

theorem yields_traitHead : traitHead.Yields fun found => IsName found.text := by
  refine yields_after advances_visibility fun _ => ?_
  refine yields_after (advances_word? "unsafe") fun _ => ?_
  refine yields_after (advances_word? "auto") fun _ => ?_
  exact yields_after (advances_word "trait") fun _ => yields_name

theorem yields_traitBody (deeper : grammar.Advances) (attrs : List Attribute) :
    (traitBody grammar attrs).Yields TraitForm.Named := by
  refine yields_bind (advances_sliced advances_traitHead) (yields_sliced yields_traitHead)
    fun ⟨found, head⟩ isName => ?_
  refine yields_after (advances_generics deeper) fun generics => ?_
  refine yields_after (advances_traitBounds deeper) fun bounds => ?_
  refine yields_after (advances_conditions deeper) fun conditions => ?_
  have content : Yields (do
      let innerAttrs ← grammar.innerAttrs
      return (innerAttrs, ← toEnd (traitMember grammar))) fun found =>
        ∀ member ∈ found.2, member.Named := by
    refine yields_after advances_innerAttrs fun innerAttrs => ?_
    exact yields_bind (advances_toEnd (advances_traitMember deeper))
      (yields_whileLooking (advances_traitMember deeper) (yields_traitMember deeper))
      fun items each => yields_pure each
  exact yields_bind (advances_inGroup _ _) (yields_inGroup .brace content)
    fun (innerAttrs, items) members => yields_pure ⟨isName, members⟩

theorem yields_moduleDefinition (advances : grammar.item.Advances)
    (yields : grammar.item.Yields ItemForm.Named) :
    (moduleDefinition grammar).Yields ItemForm.Named := by
  refine yields_after advances_visibility fun _ => ?_
  refine yields_after (advances_word? "unsafe") fun _ => ?_
  refine yields_after (advances_word "mod") fun _ => ?_
  refine yields_after (advances_peek _) fun _ => ?_
  extract_lets afterName
  have content : ∀ found, (afterName found).Yields ItemForm.Named := by
    intro found
    refine yields_after (advances_punct? ";") fun _ => yields_ite (yields_pure .other) ?_
    refine yields_inGroup .brace (yields_after advances_innerAttrs fun _ => ?_)
    exact yields_bind (advances_toEnd advances) (yields_whileLooking advances yields)
      fun items each => yields_pure (.module each)
  exact yields_ite (yields_after advances_anyWord content) (yields_after advances_name content)

/-- What is forgotten has no names. -/
theorem yields_forgotten {parser : Parser Unit} (advances : parser.Advances) :
    (forgotten parser).Yields ItemForm.Named :=
  yields_after advances fun _ => yields_pure .other

theorem yields_foreignItem (trees : List Tree) :
    (foreignItem grammar trees).Yields ItemForm.Named := by
  have block : (forgotten (foreignBlock grammar)).Yields ItemForm.Named :=
    yields_forgotten advances_foreignBlock
  refine yields_ite (yields_forgotten advances_foreignCrate) (yields_ite block ?_)
  exact yields_ite (yields_ite block (yields_malformedBefore _)) (yields_malformedBefore _)

theorem yields_unsafeItem (deeper : grammar.Advances)
    (yields : grammar.item.Yields ItemForm.Named) (attrs : List Attribute) (trees : List Tree) :
    (unsafeItem grammar attrs trees).Yields ItemForm.Named := by
  refine yields_ite ?_ (yields_ite ?_ (yields_ite ?_ (yields_ite ?_ ?_)))
  · exact yields_bind (advances_traitBody deeper attrs) (yields_traitBody deeper attrs)
      fun form named => yields_pure (.trait named)
  · exact yields_forgotten (advances_implementation deeper)
  · exact yields_forgotten advances_foreignBlock
  · exact yields_moduleDefinition deeper.item yields
  · exact yields_malformedBefore trees

/-- The names of the traits in an item are names if they are one level further inside. -/
theorem yields_itemRule (deeper : grammar.Advances)
    (yields : grammar.item.Yields ItemForm.Named) :
    (itemRule grammar).Yields ItemForm.Named := by
  refine yields_after advances_attrs fun attrs => ?_
  refine yields_after (advances_foreseen visibility) fun (isPublic, trees) => ?_
  have traitItem : Yields (do return .trait (← traitBody grammar attrs)) ItemForm.Named :=
    yields_bind (advances_traitBody deeper attrs) (yields_traitBody deeper attrs)
      fun form named => yields_pure (.trait named)
  refine yields_ite (yields_forgotten (advances_functionDefinition deeper)) ?_
  refine yields_ite (yields_foreignItem _) ?_
  refine yields_ite (yields_forgotten (advances_useDeclaration deeper)) ?_
  refine yields_ite (yields_forgotten (advances_staticDefinition deeper)) ?_
  refine yields_ite (yields_after advances_visibility fun _ =>
    yields_forgotten (advances_constantDefinition deeper)) ?_
  refine yields_ite (yields_unsafeItem deeper yields attrs _) ?_
  refine yields_ite (yields_moduleDefinition deeper.item yields) ?_
  refine yields_ite (yields_forgotten (advances_typeDefinition deeper _ _)) ?_
  refine yields_ite (yields_after advances_visibility fun _ =>
    yields_after (advances_structBody deeper attrs) fun _ => yields_pure .struct) ?_
  refine yields_ite (yields_after advances_visibility fun _ =>
    yields_after (advances_enumBody deeper attrs) fun _ => yields_pure .enumeration) ?_
  refine yields_ite (yields_after advances_visibility fun _ =>
    yields_after (advances_unionBody deeper) fun _ => yields_pure .other) ?_
  refine yields_ite (yields_after advances_aliasFollows fun _ =>
    yields_ite (yields_forgotten (advances_traitAlias deeper)) traitItem) ?_
  refine yields_ite traitItem ?_
  refine yields_ite (yields_forgotten (advances_implementation deeper)) ?_
  refine yields_ite (yields_forgotten advances_patternDefinition) ?_
  exact yields_ite (yields_forgotten advances_itemInvocation) (yields_malformedBefore trees)

/-- On every level the names of traits in an item are names. -/
theorem yields_levels (count : Nat) : (levels count).item.Yields ItemForm.Named := by
  induction count with
  | zero => exact ⟨fun _ isRead => absurd isRead fail_ne_ok⟩
  | succ count ih => exact yields_itemRule (advances_levels count) ih

end Grammar

/-- What a parser makes of trees as a whole is of its kind. -/
theorem Parser.Yields.of_runOn {α : Type} {parser : Parser α} {kind : α → Prop}
    (yields : parser.Yields kind) {trees : List Tree} {scope : Region} {value : α}
    (named : ∀ tree ∈ trees, tree.Named) (isRead : runOn parser trees scope = .ok value) :
    kind value := by
  rw [runOn] at isRead
  split at isRead
  · cases isRead
  · rename_i found input readFound
    split at isRead
    · cases isRead
    · cases isRead
      have isNamed : (Input.ofTrees trees).Named := named
      exact yields.sound isNamed readFound

/-- The names of the traits in a file that can be read are names. -/
theorem named_of_readFile {text : String} {items : List ItemForm}
    (isRead : readFile text = .ok items) : ∀ item ∈ items, item.Named := by
  obtain ⟨trees, isTrees, isRead⟩ := Outcome.bind_eq_ok_iff.mp isRead
  split at isRead
  · rename_i found readTrees
    cases isRead
    have content : (fileRule (.forTrees trees)).Yields fun items => ∀ item ∈ items, item.Named :=
      yields_after Grammar.advances_innerAttrs fun _ =>
        yields_whileLooking (Grammar.advances_levels _).item (Grammar.yields_levels _)
    exact content.of_runOn (named_of_trees isTrees) readTrees
  · cases isRead

end NativeBridge.Source
