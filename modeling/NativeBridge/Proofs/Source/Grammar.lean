import NativeBridge.Proofs.Source.Advances

/-!
# The grammar moves forward

No rule of the grammar puts a tree back: if the parsers one level further inside only
move forward, so does every rule written over them, and with them the grammar with any
number of levels.
-/

namespace NativeBridge.Source

open NativeBridge.Source.Parser

/-- All parsers of a grammar only move forward. -/
structure Grammar.Advances (grammar : Grammar) : Prop where
  type : ∀ allowPlus, (grammar.type allowPlus).Advances
  bound : grammar.bound.Advances
  expr : ∀ allowStruct, (grammar.expr allowStruct).Advances
  unary : ∀ allowStruct, (grammar.unary allowStruct).Advances
  climb : ∀ allowStruct base first, (grammar.climb allowStruct base first).Advances
  boundary : grammar.boundary.Advances
  pattern : grammar.pattern.Advances
  statements : grammar.statements.Advances
  useTree : ∀ allowRoot, (grammar.useTree allowRoot).Advances
  item : grammar.item.Advances

attribute [grind ←] Grammar.Advances.type Grammar.Advances.bound Grammar.Advances.expr
  Grammar.Advances.unary Grammar.Advances.climb Grammar.Advances.boundary Grammar.Advances.pattern
  Grammar.Advances.statements Grammar.Advances.useTree Grammar.Advances.item

namespace Grammar

variable {grammar : Grammar}

section Basic

@[grind ←]
theorem advances_attrs : grammar.attrs.Advances := by
  unfold attrs
  grind

@[grind ←]
theorem advances_innerAttrs : grammar.innerAttrs.Advances := by
  unfold innerAttrs
  grind

@[grind ←]
theorem advances_block : grammar.block.Advances := by
  unfold block
  grind

@[grind ←]
theorem advances_body : grammar.body.Advances := by
  unfold body
  grind

end Basic

section Types

@[grind ←]
theorem advances_constant : grammar.constant.Advances := by
  unfold constant
  grind

@[grind ←]
theorem advances_bounds (deeper : grammar.Advances) (stop : List Tree → Bool) :
    (bounds grammar stop).Advances := by
  unfold bounds
  grind

@[grind ←]
theorem advances_genericArgument (deeper : grammar.Advances) :
    grammar.genericArgument.Advances := by
  unfold genericArgument
  grind

@[grind ←]
theorem advances_genericArguments (deeper : grammar.Advances) :
    grammar.genericArguments.Advances := by
  unfold genericArguments
  grind

@[grind ←]
theorem advances_segment (deeper : grammar.Advances) (inExpr : Bool) :
    (segment grammar inExpr).Advances := by
  unfold segment
  grind

@[grind ←]
theorem advances_moreSegments (deeper : grammar.Advances) (inExpr : Bool) (path : PathForm) :
    (moreSegments grammar inExpr path).Advances := by
  unfold moreSegments
  grind

@[grind ←]
theorem advances_path (deeper : grammar.Advances) (inExpr : Bool) :
    (path grammar inExpr).Advances := by
  unfold path
  grind

@[grind ←]
theorem advances_qualifiedPath (deeper : grammar.Advances) (inExpr : Bool) :
    (qualifiedPath grammar inExpr).Advances := by
  refine advances_bind (advances_punct? "<") fun isQualified => ?_
  refine advances_ite ?_ (advances_path deeper inExpr)
  refine advances_bind (deeper.type true) fun _ => ?_
  refine advances_bind (advances_word? "as") fun hasTrait => ?_
  grind +splitImp

@[grind ←]
theorem advances_result (deeper : grammar.Advances) (allowPlus : Bool) :
    (result grammar allowPlus).Advances := by
  unfold result
  grind

@[grind ←]
theorem advances_parenthesized (deeper : grammar.Advances) : grammar.parenthesized.Advances := by
  unfold parenthesized
  grind

@[grind ←]
theorem advances_genericParam (deeper : grammar.Advances) : grammar.genericParam.Advances := by
  unfold genericParam
  grind

@[grind ←]
theorem advances_generics (deeper : grammar.Advances) : grammar.generics.Advances := by
  unfold generics
  grind +splitImp

@[grind ←]
theorem advances_boundLifetimes (deeper : grammar.Advances) :
    grammar.boundLifetimes.Advances := by
  unfold boundLifetimes
  grind

@[grind ←]
theorem advances_traitBound (deeper : grammar.Advances) : grammar.traitBound.Advances := by
  refine advances_bind (advances_boundLifetimes deeper) fun hasLifetimes => ?_
  refine advances_bind (advances_peek _) fun isBracketed => ?_
  extract_lets afterMark afterConst
  have advancesMark : (afterMark ()).Advances := by grind
  have advancesConst : (afterConst ()).Advances := by grind
  grind +splitImp

@[grind ←]
theorem advances_boundRule (deeper : grammar.Advances) (allowUse : Bool) :
    (boundRule grammar allowUse).Advances := by
  refine advances_bind advances_look fun trees => ?_
  refine advances_ite advances_lifetime (advances_ite ?_ (by grind))
  refine advances_bind advances_here fun start => ?_
  grind +splitImp

@[grind ←]
theorem advances_typeBounds (deeper : grammar.Advances) (allowPlus allowUse : Bool)
    (start : Option Region) :
    (typeBounds grammar allowPlus allowUse start).Advances := by
  unfold typeBounds
  grind +splitImp

@[grind ←]
theorem advances_sumTail (deeper : grammar.Advances) : grammar.sumTail.Advances := by
  unfold sumTail
  grind +splitImp

@[grind ←]
theorem advances_convention? : convention?.Advances := by
  unfold convention?
  grind

@[grind ←]
theorem advances_functionType (deeper : grammar.Advances) : grammar.functionType.Advances := by
  unfold functionType
  grind

@[grind ←]
theorem advances_groupedType (deeper : grammar.Advances) (allowPlus : Bool) :
    (groupedType grammar allowPlus).Advances := by
  unfold groupedType
  grind

@[grind ←]
theorem advances_pathType (deeper : grammar.Advances) (allowPlus hasLifetimes : Bool) :
    (pathType grammar allowPlus hasLifetimes).Advances := by
  refine advances_bind (advances_qualifiedPath deeper false) fun found => ?_
  grind +splitImp

@[grind ←]
theorem advances_pointerType (deeper : grammar.Advances) : grammar.pointerType.Advances := by
  unfold pointerType
  grind

@[grind ←]
theorem advances_referenceType (deeper : grammar.Advances) : grammar.referenceType.Advances := by
  unfold referenceType
  grind

@[grind ←]
theorem advances_bracketType : grammar.bracketType.Advances := by
  unfold bracketType
  grind

@[grind ←]
theorem advances_typeRule (deeper : grammar.Advances) (allowPlus : Bool) :
    (typeRule grammar allowPlus).Advances := by
  refine advances_bind (advances_located ?_) fun _ => advances_pure _
  refine advances_bind (advances_boundLifetimes deeper) fun hasLifetimes => ?_
  refine advances_bind advances_look fun trees => ?_
  repeat' apply advances_ite
  all_goals grind

@[grind ←]
theorem advances_condition (deeper : grammar.Advances) : grammar.condition.Advances := by
  unfold condition
  grind

@[grind ←]
theorem advances_conditions (deeper : grammar.Advances) : grammar.conditions.Advances := by
  unfold conditions
  grind +splitImp

end Types

section Patterns

@[grind ←]
theorem advances_alternatives (deeper : grammar.Advances) : grammar.alternatives.Advances := by
  unfold alternatives
  grind +splitImp

@[grind ←]
theorem advances_constantBlock : grammar.constantBlock.Advances := by
  unfold constantBlock
  grind

@[grind ←]
theorem advances_patternBound (deeper : grammar.Advances) : grammar.patternBound.Advances := by
  unfold patternBound
  grind

@[grind ←]
theorem advances_patternRange (deeper : grammar.Advances) (hasStart dotsAlone : Bool) :
    (patternRange grammar hasStart dotsAlone).Advances := by
  unfold patternRange
  grind

@[grind ←]
theorem advances_member : member.Advances := by
  unfold member
  grind

@[grind ←]
theorem advances_pathPattern (deeper : grammar.Advances) : grammar.pathPattern.Advances := by
  unfold pathPattern
  grind

@[grind ←]
theorem advances_bindingPattern (deeper : grammar.Advances) :
    grammar.bindingPattern.Advances := by
  unfold bindingPattern
  grind

@[grind ←]
theorem advances_patternRule (deeper : grammar.Advances) : grammar.patternRule.Advances := by
  unfold patternRule
  grind

end Patterns

section Expressions

@[grind ←]
theorem advances_operand (deeper : grammar.Advances) (allowStruct : Bool) (bound : Nat) :
    (operand grammar allowStruct bound).Advances := by
  unfold operand
  grind

@[grind ←]
theorem advances_rangeDots : rangeDots.Advances := by
  unfold rangeDots
  grind

@[grind ←]
theorem advances_rangeRest (deeper : grammar.Advances) (allowStruct : Bool) :
    (rangeRest grammar allowStruct).Advances := by
  unfold rangeRest
  grind

@[grind ←]
theorem advances_climbRule (deeper : grammar.Advances) (allowStruct : Bool) (base : Nat)
    (first : ExprForm) :
    (climbRule grammar allowStruct base first).Advances := by
  unfold climbRule
  grind

@[grind ←]
theorem advances_conditional (deeper : grammar.Advances) : grammar.conditional.Advances := by
  unfold conditional
  grind

@[grind ←]
theorem advances_conditionalLoop (deeper : grammar.Advances) :
    grammar.conditionalLoop.Advances := by
  unfold conditionalLoop
  grind

@[grind ←]
theorem advances_valuesLoop (deeper : grammar.Advances) : grammar.valuesLoop.Advances := by
  unfold valuesLoop
  grind

@[grind ←]
theorem advances_endlessLoop : grammar.endlessLoop.Advances := by
  unfold endlessLoop
  grind

@[grind ←]
theorem advances_labeled (deeper : grammar.Advances) : grammar.labeled.Advances := by
  unfold labeled
  grind

@[grind ←]
theorem advances_choice (deeper : grammar.Advances) : grammar.choice.Advances := by
  unfold choice
  grind

/-- So do the expressions that end with a block. -/
@[grind →]
theorem advances_of_blockExpr? (deeper : grammar.Advances) {trees : List Tree}
    {parser : Parser Unit} (isBlock : blockExpr? grammar trees = some parser) :
    parser.Advances := by
  unfold blockExpr? at isBlock
  repeat' split at isBlock
  all_goals grind +splitImp

@[grind ←]
theorem advances_closureArgument (deeper : grammar.Advances) :
    grammar.closureArgument.Advances := by
  unfold closureArgument
  grind

@[grind ←]
theorem advances_closure (deeper : grammar.Advances) (allowStruct : Bool) :
    (closure grammar allowStruct).Advances := by
  refine advances_bind (advances_boundLifetimes deeper) fun _ => ?_
  refine advances_bind (advances_word? "const") fun _ => ?_
  refine advances_bind (advances_word? "static") fun _ => ?_
  grind

@[grind ←]
theorem advances_pathExpr (deeper : grammar.Advances) (allowStruct : Bool) :
    (pathExpr grammar allowStruct).Advances := by
  unfold pathExpr
  grind

@[grind ←]
theorem advances_leave (deeper : grammar.Advances) (allowStruct : Bool) :
    (leave grammar allowStruct).Advances := by
  refine advances_bind (advances_word "break") fun _ => ?_
  grind +splitImp

@[grind ←]
theorem advances_withValue (deeper : grammar.Advances) (text : String) :
    (withValue grammar text).Advances := by
  unfold withValue
  grind

@[grind ←]
theorem advances_atom (deeper : grammar.Advances) (allowStruct : Bool) :
    (atom grammar allowStruct).Advances := by
  refine advances_bind advances_look fun trees => ?_
  refine advances_ite (by grind) (advances_ite (by grind) (advances_ite (by grind) ?_))
  split
  · grind
  · repeat' apply advances_ite
    all_goals grind +splitImp

@[grind ←]
theorem advances_selection (deeper : grammar.Advances) : grammar.selection.Advances := by
  refine advances_bind (advances_word? "await") fun isAwait => ?_
  grind +splitImp

@[grind ←]
theorem advances_trailers (deeper : grammar.Advances) (first : ExprForm) :
    (trailers grammar first).Advances := by
  refine advances_loop (fun form => ?_) first
  refine advances_bind advances_look fun trees => ?_
  refine advances_ite (by grind) (advances_ite ?_ (by grind))
  refine advances_bind (advances_punct ".") fun _ => ?_
  refine advances_bind advances_look fun selected => ?_
  split
  · grind
  · grind

@[grind ←]
theorem advances_unaryRule (deeper : grammar.Advances) (allowStruct : Bool) :
    (unaryRule grammar allowStruct).Advances := by
  refine advances_bind advances_attrs fun attrs => ?_
  grind +splitImp

@[grind ←]
theorem advances_boundaryRule (deeper : grammar.Advances) : grammar.boundaryRule.Advances := by
  unfold boundaryRule
  grind +splitImp

@[grind ←]
theorem advances_exprRule (deeper : grammar.Advances) (allowStruct : Bool) :
    (exprRule grammar allowStruct).Advances := by
  unfold exprRule
  grind

end Expressions

section Statements

@[grind ←]
theorem advances_invocation? : invocation?.Advances := by
  unfold invocation?
  grind

@[grind ←]
theorem advances_declaration (deeper : grammar.Advances) : grammar.declaration.Advances := by
  refine advances_bind (advances_word "let") fun _ => ?_
  refine advances_bind deeper.pattern fun _ => ?_
  grind +splitImp

@[grind ←]
theorem advances_statement (deeper : grammar.Advances) : grammar.statement.Advances := by
  unfold statement
  grind

@[grind ←]
theorem advances_statementsRule (deeper : grammar.Advances) :
    grammar.statementsRule.Advances := by
  unfold statementsRule
  grind

end Statements

section Functions

@[grind ←]
theorem advances_visibility : visibility.Advances := by
  unfold visibility
  grind

@[grind ←]
theorem advances_foreseen {α : Type} (parser : Parser α) : (foreseen parser).Advances where
  suffix := by
    intro input after found isRead
    obtain ⟨before, _, isGet, isRead⟩ := bind_eq_ok_iff.mp isRead
    obtain ⟨_, _, -, isRead⟩ := bind_eq_ok_iff.mp isRead
    obtain ⟨_, _, -, isRead⟩ := bind_eq_ok_iff.mp isRead
    cases isRead
    cases isGet
    exact List.suffix_refl _

@[grind ←]
theorem advances_malformedBefore {α : Type} (trees : List Tree) :
    (malformedBefore trees : Parser α).Advances := by
  unfold malformedBefore
  grind

@[grind ←]
theorem advances_signatureHead (allowSafe : Bool) : (signatureHead allowSafe).Advances := by
  refine advances_bind (advances_word? "const") fun _ => ?_
  grind +splitImp

@[grind ←]
theorem advances_signature (deeper : grammar.Advances) (allowSafe : Bool) :
    (signature grammar allowSafe).Advances := by
  unfold signature
  grind

end Functions

section Members

@[grind ←]
theorem advances_invocation : invocation.Advances := by
  unfold invocation
  grind

@[grind ←]
theorem advances_typeDefinition (deeper : grammar.Advances) (allowDefault : Bool)
    (place : ConditionsPlace) :
    (typeDefinition grammar allowDefault place).Advances := by
  refine advances_bind advances_visibility fun _ => ?_
  extract_lets ends afterConditions afterBounds afterDefault
  have advancesConditions : ∀ hadConditions, (afterConditions hadConditions).Advances := by
    grind +splitImp
  have advancesBounds : (afterBounds ()).Advances := by grind +splitImp
  have advancesDefault : (afterDefault ()).Advances := by grind +splitImp
  grind

@[grind ←]
theorem advances_constantDefinition (deeper : grammar.Advances) :
    grammar.constantDefinition.Advances := by
  refine advances_bind (advances_word "const") fun _ => ?_
  refine advances_bind (advances_peek _) fun isNamed => ?_
  grind +splitImp

@[grind ←]
theorem advances_bodyOrSemicolon : grammar.bodyOrSemicolon.Advances := by
  unfold bodyOrSemicolon
  grind

@[grind ←]
theorem advances_traitMethod (deeper : grammar.Advances) (attrs : List Attribute) :
    (traitMethod grammar attrs).Advances := by
  unfold traitMethod
  grind

@[grind ←]
theorem advances_traitMemberBody (deeper : grammar.Advances) (attrs : List Attribute) :
    (traitMemberBody grammar attrs).Advances := by
  unfold traitMemberBody
  grind +splitImp

@[grind ←]
theorem advances_traitMember (deeper : grammar.Advances) : grammar.traitMember.Advances := by
  unfold traitMember
  grind

end Members

section Items

@[grind ←]
theorem advances_namedFields : grammar.namedFields.Advances := by
  unfold namedFields
  grind

@[grind ←]
theorem advances_positionalFields : grammar.positionalFields.Advances := by
  unfold positionalFields
  grind

@[grind ←]
theorem advances_structFields (deeper : grammar.Advances) : grammar.structFields.Advances := by
  unfold structFields
  grind

@[grind ←]
theorem advances_structBody (deeper : grammar.Advances) (attrs : List Attribute) :
    (structBody grammar attrs).Advances := by
  unfold structBody
  grind

@[grind ←]
theorem advances_enumBody (deeper : grammar.Advances) (attrs : List Attribute) :
    (enumBody grammar attrs).Advances := by
  unfold enumBody
  grind

@[grind ←]
theorem advances_unionBody (deeper : grammar.Advances) : grammar.unionBody.Advances := by
  unfold unionBody
  grind

@[grind ←]
theorem advances_traitHead : traitHead.Advances := by
  unfold traitHead
  grind

@[grind ←]
theorem advances_traitBounds (deeper : grammar.Advances) : grammar.traitBounds.Advances := by
  unfold traitBounds
  grind

@[grind ←]
theorem advances_traitBody (deeper : grammar.Advances) (attrs : List Attribute) :
    (traitBody grammar attrs).Advances := by
  unfold traitBody
  grind

@[grind ←]
theorem advances_traitAlias (deeper : grammar.Advances) : grammar.traitAlias.Advances := by
  unfold traitAlias
  grind +splitImp

@[grind ←]
theorem advances_aliasFollows : grammar.aliasFollows.Advances := by
  unfold aliasFollows
  grind

@[grind ←]
theorem advances_implementation (deeper : grammar.Advances) :
    grammar.implementation.Advances := by
  refine advances_bind advances_visibility fun _ => ?_
  refine advances_bind (advances_word? "default") fun _ => ?_
  refine advances_bind (advances_word? "unsafe") fun _ => ?_
  refine advances_bind (advances_word "impl") fun _ => ?_
  refine advances_bind (advances_peek _) fun isGeneric => ?_
  extract_lets afterTrait afterSign afterConst afterGenerics
  have advancesTrait : (afterTrait ()).Advances := by grind
  have advancesSign : (afterSign ()).Advances := by grind
  have advancesConst : (afterConst ()).Advances := by grind
  have advancesGenerics : (afterGenerics ()).Advances := by grind
  grind

@[grind ←]
theorem advances_foreignBlock : grammar.foreignBlock.Advances := by
  unfold foreignBlock
  grind

@[grind ←]
theorem advances_foreignCrate : foreignCrate.Advances := by
  refine advances_bind advances_visibility fun _ => ?_
  grind +splitImp

@[grind ←]
theorem advances_useTreeRule (deeper : grammar.Advances) (allowRoot : Bool) :
    (useTreeRule grammar allowRoot).Advances := by
  unfold useTreeRule
  grind

@[grind ←]
theorem advances_useDeclaration (deeper : grammar.Advances) :
    grammar.useDeclaration.Advances := by
  unfold useDeclaration
  grind

@[grind ←]
theorem advances_staticDefinition (deeper : grammar.Advances) :
    grammar.staticDefinition.Advances := by
  refine advances_bind advances_visibility fun _ => ?_
  refine advances_bind (advances_word "static") fun _ => ?_
  refine advances_bind (advances_word? "mut") fun _ => ?_
  grind +splitImp

@[grind ←]
theorem advances_moduleDefinition : grammar.moduleDefinition.Advances := by
  unfold moduleDefinition
  grind

@[grind ←]
theorem advances_patternDefinition : patternDefinition.Advances := by
  unfold patternDefinition
  grind

@[grind ←]
theorem advances_itemInvocation : itemInvocation.Advances := by
  unfold itemInvocation
  grind

@[grind ←]
theorem advances_functionDefinition (deeper : grammar.Advances) :
    grammar.functionDefinition.Advances := by
  unfold functionDefinition
  grind

@[grind ←]
theorem advances_forgotten {parser : Parser Unit} (advances : parser.Advances) :
    (forgotten parser).Advances :=
  advances_bind advances fun _ => advances_pure _

@[grind ←]
theorem advances_foreignItem (trees : List Tree) : (foreignItem grammar trees).Advances := by
  unfold foreignItem
  grind

@[grind ←]
theorem advances_unsafeItem (deeper : grammar.Advances) (attrs : List Attribute)
    (trees : List Tree) :
    (unsafeItem grammar attrs trees).Advances := by
  unfold unsafeItem
  grind

@[grind ←]
theorem advances_itemRule (deeper : grammar.Advances) : grammar.itemRule.Advances := by
  refine advances_bind advances_attrs fun attrs => ?_
  refine advances_bind (advances_foreseen visibility) fun (isPublic, trees) => ?_
  repeat' apply advances_ite
  all_goals grind

end Items

/-- One more level only moves forward if the levels below do. -/
theorem advances_deepen (deeper : grammar.Advances) : grammar.deepen.Advances where
  type := advances_typeRule deeper
  bound := advances_boundRule deeper false
  expr := advances_exprRule deeper
  unary := advances_unaryRule deeper
  climb := advances_climbRule deeper
  boundary := advances_boundaryRule deeper
  pattern := advances_patternRule deeper
  statements := advances_statementsRule deeper
  useTree := advances_useTreeRule deeper
  item := advances_itemRule deeper

theorem advances_nothing : nothing.Advances where
  type _ := advances_malformed
  bound := advances_malformed
  expr _ := advances_malformed
  unary _ := advances_malformed
  climb _ _ _ := advances_malformed
  boundary := advances_malformed
  pattern := advances_malformed
  statements := advances_malformed
  useTree _ := advances_malformed
  item := advances_malformed

/-- The grammar with any number of levels only moves forward. -/
theorem advances_levels (count : Nat) : (levels count).Advances := by
  induction count with
  | zero => exact advances_nothing
  | succ count ih => exact advances_deepen ih

end Grammar

end NativeBridge.Source
