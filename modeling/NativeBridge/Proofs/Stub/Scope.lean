import NativeBridge.Generation.Basic
import NativeBridge.Proofs.Outcome
import NativeBridge.Proofs.Stub.Call

/-!
# Whose arguments a generated call passes on

The body of a method in the managed stub binds two variables of its own before it calls the
native function with the parameters of the method, by their names. Read off the lines of the
body, the innermost variable of that name is the parameter unless it has the name of one of
these two (`Resolver.call_forwards_parameter_iff`), and no name of a parameter is refused.
-/

namespace NativeBridge.Stub

/-- What a name in the body of a method refers to. -/
inductive Referent where
  /-- The parameter at this index. -/
  | parameter (index : Nat)
  /-- A variable of the body. -/
  | variable
  deriving DecidableEq

/-- The variables of a block, the latest first. -/
abbrev Block := List (String × Referent)

/-- The identifier that a name spells: a name with the raw mark is the one without it. -/
def identifierOf (name : String) : String :=
  String.ofList ((afterLeading? "r#".toList name.toList).getD name.toList)

/-- The variable that a line binds, if it begins with `let`. -/
def boundName? (text : List Char) : Option String :=
  (afterLeading? "let ".toList text).map fun rest =>
    String.ofList (rest.takeWhile fun c => c.isAlphanum || c == '_')

/-- One more variable in the innermost block. -/
def bindInner (name : String) : List Block → List Block
  | [] => []
  | inner :: outer => ((name, .variable) :: inner) :: outer

/-- The open blocks after the text of a line, innermost first: a brace at its beginning closes
one, a brace at its end opens one, and what it binds is there afterwards. -/
def afterText (blocks : List Block) (text : List Char) : List Block :=
  let left := if text.head? = some '\x7d' then blocks.tail else blocks
  let bound := match boundName? text with
    | some name => bindInner name left
    | none => left
  if text.getLast? = some '\x7b' then [] :: bound else bound

/-- The open blocks after a line. -/
def afterLine (blocks : List Block) (line : String) : List Block :=
  afterText blocks (line.toList.dropWhile (· == ' '))

/-- The open blocks after some lines of the body of a function with these parameters. -/
def blocksAfter (params lines : List String) : List Block :=
  lines.foldl afterLine [(params.mapIdx fun index name => (name, .parameter index)).reverse]

/-- What a name refers to: the innermost variable of the same identifier. -/
def referent? (blocks : List Block) (name : String) : Option Referent :=
  (blocks.flatten.find? fun binding => identifierOf binding.1 == identifierOf name).map Prod.snd

/-- Among the lines of a managed stub a method has these between its head, which lists its
parameters, and its call with these arguments. -/
structure CallsAfter (context : ManagedContext) (cls : ExportedClass) (decl : MethodDecl)
    (managed before arguments : List String) : Prop where
  body : ∃ doc result closing,
    [doc, "    fn " ++ decl.name ++ "("
        ++ commaList ("&self" :: decl.params.map fun param =>
          param.name ++ ": " ++ context.typeText cls param.type) ++ ")" ++ result ++ " \x7b"]
      ++ before ++ ["            __f(" ++ commaList arguments ++ ")"] ++ closing
      <:+: managed
  arguments : List.Forall₂ (fun param argument => PassedAs param.name param.type argument)
    decl.params arguments

/-- The lines between the head of a method and its call. -/
def linesBeforeCall (context : ManagedContext) (cls : ExportedClass) (method : ExportedMethod) :
    List String :=
  ["        let __bound = match self." ++ siteField method
      ++ ".get_or_resolve(&self.__registry) \x7b",
    "            ::core::result::Result::Ok(bound) => bound,",
    "            ::core::result::Result::Err(err) => panic!(\"\x7berr\x7d\"),",
    "        \x7d;",
    "        // SAFETY: the host resolved this export for the same parameter block.",
    "        unsafe \x7b",
    "            let __f: unsafe extern \"C\" fn("
      ++ commaList (method.params.map fun param => context.foreignType cls param.managed) ++ ")"
      ++ resultText context cls method ++ " = __bound.as_fn();"]

/-- Resolved parameters are those that were declared. -/
theorem params_of_resolves {types : TypeMap} {decls : List ParamDecl} {params : List Parameter}
    (resolved : List.Forall₂ (ParamResolves types) decls params) :
    params.map (fun param => (param.name, param.managed))
      = decls.map fun decl => (decl.name, decl.type) := by
  induction resolved with
  | nil => rfl
  | cons first _ ih =>
      obtain ⟨-, _, position, -, rfl⟩ := first
      rw [List.map_cons, List.map_cons, ih]
      rfl

/-- Every declared method calls after these lines. -/
theorem callsAfter_of_resolves {context : ManagedContext} {countsReturn : Bool}
    {cls : ExportedClass} {decl : MethodDecl} {method : ExportedMethod}
    (isMethod : method ∈ cls.methods)
    (resolved : MethodResolves context.types countsReturn decl method) :
    CallsAfter context cls decl (managedStub context cls) (linesBeforeCall context cls method)
      (method.params.map argumentText) where
  body := by
    have params := params_of_resolves resolved.params
    have written : method.params.map (fun param =>
        param.name ++ ": " ++ context.typeText cls param.managed)
        = decl.params.map fun param => param.name ++ ": " ++ context.typeText cls param.type := by
      have texts := congrArg (List.map fun (param : String × ManagedType) =>
        param.1 ++ ": " ++ context.typeText cls param.2) params
      rwa [List.map_map, List.map_map] at texts
    have lines := infix_managedStub context isMethod
    simp only [methodLines, written, resolved.name] at lines
    exact ⟨"    /// Native: `" ++ (signature cls method).text ++ "`", resultText context cls method,
      ["        \x7d", "    \x7d"], lines⟩
  arguments := by
    rw [List.forall₂_map_right_iff]
    refine resolved.params.imp fun source param same => ?_
    obtain ⟨-, _, position, -, rfl⟩ := same
    exact passedAs_argumentText (.ofPosition source position)

/-- The line that binds the resolved function opens a block. -/
theorem afterLine_bound (inner : Block) (site : String) :
    afterLine [inner] ("        let __bound = match self." ++ site
      ++ ".get_or_resolve(&self.__registry) \x7b") = [[], ("__bound", .variable) :: inner] := by
  have text : ("        let __bound = match self." ++ site
      ++ ".get_or_resolve(&self.__registry) \x7b").toList.dropWhile (· == ' ')
      = "let __bound = match self.".toList
        ++ (site.toList ++ ".get_or_resolve(&self.__registry) \x7b".toList) := by
    rw [String.toList_append, String.toList_append, List.append_assoc]
    rfl
  have last : ("let __bound = match self.".toList
      ++ (site.toList ++ ".get_or_resolve(&self.__registry) \x7b".toList)).getLast?
      = some '\x7b' := by
    rw [← List.append_assoc, List.getLast?_append_of_ne_nil _ (by decide)]
    rfl
  rw [afterLine, text, afterText, last]
  rfl

/-- The line that binds the function pointer opens none. -/
theorem afterLine_function (blocks : List Block) (signature : String) :
    afterLine ([] :: blocks) ("            let __f: unsafe extern \"C\" fn(" ++ signature
      ++ " = __bound.as_fn();") = [("__f", .variable)] :: blocks := by
  have text : ("            let __f: unsafe extern \"C\" fn(" ++ signature
      ++ " = __bound.as_fn();").toList.dropWhile (· == ' ')
      = "let __f: unsafe extern \"C\" fn(".toList
        ++ (signature.toList ++ " = __bound.as_fn();".toList) := by
    rw [String.toList_append, String.toList_append, List.append_assoc]
    rfl
  have last : ("let __f: unsafe extern \"C\" fn(".toList
      ++ (signature.toList ++ " = __bound.as_fn();".toList)).getLast? = some ';' := by
    rw [← List.append_assoc, List.getLast?_append_of_ne_nil _ (by decide)]
    rfl
  rw [afterLine, text, afterText, last]
  rfl

/-- Before the call the body has bound its two variables, the later one in the inner block. -/
theorem foldl_linesBeforeCall (context : ManagedContext) (cls : ExportedClass)
    (method : ExportedMethod) (inner : Block) :
    (linesBeforeCall context cls method).foldl afterLine [inner]
      = [[("__f", .variable)], ("__bound", .variable) :: inner] := by
  have resolves : ["            ::core::result::Result::Ok(bound) => bound,",
      "            ::core::result::Result::Err(err) => panic!(\"\x7berr\x7d\"),",
      "        \x7d;",
      "        // SAFETY: the host resolved this export for the same parameter block.",
      "        unsafe \x7b"].foldl afterLine [[], ("__bound", .variable) :: inner]
      = [[], ("__bound", .variable) :: inner] := rfl
  have types := afterLine_function [("__bound", .variable) :: inner]
    (commaList (method.params.map fun param => context.foreignType cls param.managed) ++ ")"
      ++ resultText context cls method)
  simp only [← String.append_assoc] at types
  simp only [linesBeforeCall, List.foldl_cons, List.foldl_nil, afterLine_bound] at resolves ⊢
  rw [resolves, types]

/-- Among parameters alone a name refers to the last one of the same identifier. -/
theorem find?_params_eq_iff {names : List String} {index : Nat} {name : String}
    (isName : names[index]? = some name) :
    (((names.mapIdx fun index name => (name, Referent.parameter index)).reverse.find?
        fun binding => identifierOf binding.1 == identifierOf name).map Prod.snd
        = some (.parameter index)) ↔
      ∀ later other, index < later → names[later]? = some other →
        identifierOf other ≠ identifierOf name := by
  obtain ⟨inRange, isName⟩ := List.getElem?_eq_some_iff.mp isName
  have split : names = names.take index ++ name :: names.drop (index + 1) := by
    rw [← isName, List.getElem_cons_drop, List.take_append_drop]
  generalize before : names.take index = front at split
  generalize names.drop (index + 1) = behind at split
  have position : front.length = index := by
    rw [← before, List.length_take_of_le (Nat.le_of_lt inRange)]
  subst split
  have stands : ∀ offset, (front ++ name :: behind)[offset + 1 + index]? = behind[offset]? := by
    intro offset
    have place : offset + 1 + index - front.length = offset + 1 := by omega
    rw [List.getElem?_append_right (by omega), place, List.getElem?_cons_succ]
  rw [List.mapIdx_append, List.reverse_append, List.mapIdx_cons, List.reverse_cons,
    List.append_assoc, List.find?_append, Nat.zero_add, position]
  cases found : (behind.mapIdx fun place name =>
      (name, Referent.parameter (place + 1 + index))).reverse.find?
      fun binding => identifierOf binding.1 == identifierOf name with
  | none =>
      -- No later parameter has the identifier.
      have others : ∀ later other, index < later →
          (front ++ name :: behind)[later]? = some other →
          identifierOf other ≠ identifierOf name := by
        intro later other beyond isOther
        obtain ⟨offset, rfl⟩ : ∃ offset, later = offset + 1 + index := ⟨later - index - 1, by omega⟩
        rw [stands] at isOther
        obtain ⟨offsetInRange, isOther⟩ := List.getElem?_eq_some_iff.mp isOther
        have isLater : (other, Referent.parameter (offset + 1 + index))
            ∈ (behind.mapIdx fun place name =>
              (name, Referent.parameter (place + 1 + index))).reverse :=
          List.mem_reverse.mpr (List.mem_mapIdx.mpr ⟨offset, offsetInRange, by rw [isOther]⟩)
        simpa using List.find?_eq_none.mp found _ isLater
      refine iff_of_true ?_ others
      simp
  | some binding =>
      -- A later parameter has it, and stands at another index.
      obtain ⟨place, placeInRange, isBinding⟩ :=
        List.mem_mapIdx.mp (List.mem_reverse.mp (List.mem_of_find?_eq_some found))
      have same : identifierOf binding.1 = identifierOf name := by
        simpa using List.find?_some found
      subst isBinding
      refine iff_of_false ?_ fun others => ?_
      · simp
      · refine others (place + 1 + index) behind[place] (by omega) ?_ same
        rw [stands]
        exact List.getElem?_eq_getElem placeInRange

/-- Before the call a parameter's name refers to it unless the body or a later parameter has bound
the identifier. -/
theorem referent?_before_call (context : ManagedContext) (cls : ExportedClass)
    (method : ExportedMethod) {params : List String} {index : Nat} {name : String}
    (isParam : params[index]? = some name) :
    referent? (blocksAfter params (linesBeforeCall context cls method)) name
        = some (.parameter index) ↔
      identifierOf name ∉ ["__bound", "__f"] ∧ ∀ later other, index < later →
        params[later]? = some other → identifierOf other ≠ identifierOf name := by
  rw [← find?_params_eq_iff isParam, blocksAfter, foldl_linesBeforeCall, referent?]
  have bound : identifierOf "__bound" = "__bound" := by decide
  have function : identifierOf "__f" = "__f" := by decide
  by_cases isFunction : identifierOf name = "__f"
  · simp [function, isFunction]
  · by_cases isBound : identifierOf name = "__bound"
    · simp [function, bound, isBound]
    · have others : ("__f" == identifierOf name) = false ∧
          ("__bound" == identifierOf name) = false := by
        simp [Ne.symm isFunction, Ne.symm isBound]
      simp [function, bound, isFunction, isBound, others]

end NativeBridge.Stub

namespace NativeBridge.Resolver

open NativeBridge.Stub

/-- For every class that a resolver accepts and every configuration, the body of a method passes
the parameters on in order, by their names. Such a name refers to the parameter itself exactly if
it is none of the two that the body has bound before the call, and no later parameter is the same
identifier. -/
theorem call_forwards_parameter_iff {resolver : Resolver} {decl : ExportDecl}
    {cls : ExportedClass} (config : Config) (ok : (resolver.resolve decl).1 = .ok cls) :
    ∃ managed, (generateClass config resolver.types cls).managed.contents = render managed ∧
      ∀ method ∈ decl.methods, ∃ before arguments,
        CallsAfter ⟨resolver.types, config⟩ cls method managed before arguments ∧
        ∀ index name, (method.params.map ParamDecl.name)[index]? = some name →
          (referent? (blocksAfter (method.params.map ParamDecl.name) before) name
              = some (.parameter index) ↔
            identifierOf name ∉ ["__bound", "__f"] ∧
              ∀ later other, index < later →
                (method.params.map ParamDecl.name)[later]? = some other →
                identifierOf other ≠ identifierOf name) := by
  refine ⟨_, rfl, fun method isMethod => ?_⟩
  have resolved := (resolveExport_ok (resolve_ok ok)).methods
  obtain ⟨exported, isExported, same⟩ := exists_of_forall₂ resolved.flip isMethod
  exact ⟨_, _, callsAfter_of_resolves isExported same, fun index name isParam =>
    referent?_before_call ⟨resolver.types, config⟩ cls exported isParam⟩

/-- The body of the blend passes on its second parameter as what is behind the reference. -/
theorem call_forwards_parameter_iff_blend :
    ∃ cls managed before arguments, ((start vectorTypes false).resolve blendExport).1 = .ok cls ∧
      (∀ method ∈ blendExport.methods,
        CallsAfter ⟨vectorTypes, Config.standard⟩ cls method managed before arguments) ∧
      referent? (blocksAfter ["start", "into", "trace", "mean", "weight"] before) "into"
        = some (.parameter 1) := by
  have accepted : ((start vectorTypes false).resolve blendExport).1 = .ok _ := rfl
  obtain ⟨managed, -, calls⟩ := call_forwards_parameter_iff Config.standard accepted
  obtain ⟨before, arguments, call, refers⟩ := calls _ List.mem_cons_self
  refine ⟨_, managed, before, arguments, accepted, ?_, ?_⟩
  · intro method isMethod
    rw [List.mem_singleton.mp isMethod]
    exact call
  · refine (refers 1 "into" rfl).mpr ⟨by decide, fun later other beyond isOther => ?_⟩
    have inRange : later < 5 := (List.getElem?_eq_some_iff.mp isOther).1
    obtain rfl | rfl | rfl : later = 2 ∨ later = 3 ∨ later = 4 := by omega
    all_goals
      cases isOther
      decide

/-- An export with a parameter that is named like a variable of the body. -/
def reefExport : ExportDecl :=
  ⟨"Reef", "interop", none, .class, none,
    [⟨"flood", [⟨"__bound", .path "i32", none, .synthetic⟩], .unit, none, .synthetic⟩], .synthetic⟩

/-- The reef is accepted, and its call passes on what the body has bound. -/
theorem call_captures_parameter :
    ∃ cls managed before, ((start vectorTypes false).resolve reefExport).1 = .ok cls ∧
      (generateClass Config.standard vectorTypes cls).managed.contents = render managed ∧
      (∀ method ∈ reefExport.methods,
        CallsAfter ⟨vectorTypes, Config.standard⟩ cls method managed before ["__bound"]) ∧
      referent? (blocksAfter ["__bound"] before) "__bound" = some .variable := by
  obtain ⟨cls, accepted⟩ : ∃ cls, ((start vectorTypes false).resolve reefExport).1 = .ok cls :=
    ⟨_, rfl⟩
  have resolved := (resolveExport_ok (resolve_ok accepted)).methods
  obtain ⟨method, isMethod, same⟩ := exists_of_forall₂ resolved.flip List.mem_cons_self
  have call : CallsAfter ⟨vectorTypes, Config.standard⟩ cls _ _ _ _ :=
    callsAfter_of_resolves isMethod same
  obtain ⟨argument, rest, passed, none, arguments⟩ :=
    List.forall₂_cons_left_iff.mp call.arguments
  cases passed
  rw [List.forall₂_nil_left_iff.mp none] at arguments
  rw [arguments] at call
  refine ⟨cls, _, linesBeforeCall ⟨vectorTypes, Config.standard⟩ cls method, accepted, rfl,
    fun decl isDecl => ?_, ?_⟩
  · rw [List.mem_singleton.mp isDecl]
    exact call
  · rw [blocksAfter, foldl_linesBeforeCall]
    decide

end NativeBridge.Resolver
