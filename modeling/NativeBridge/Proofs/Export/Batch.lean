import NativeBridge.Proofs.Export.Acceptance

/-!
# Runs of exports are made of single ones

A resolver goes through all exports of a run, whatever it finds. What it says of one of them is
what it would say of that alone, after a fault if the qualified name was there before
(`Resolver.faultsOf_resolve_after`): of all that a resolver was given it remembers no more than
the place where each qualified name came first. `Resolver.resolveAll_compositional` says so of
whole runs.
-/

namespace NativeBridge

/-- The faults of an outcome. -/
def faultsOf {α : Type} : Except (List BindingError) α → List BindingError
  | .ok _ => []
  | .error faults => faults

/-- The fault of an export whose qualified name was there before, at the first place. -/
def ExportDecl.repeatFault? (earlier : List ExportDecl) (decl : ExportDecl) : Option BindingError :=
  (earlier.find? fun other => other.qualifiedName == decl.qualifiedName).map fun first =>
    .duplicateExport decl.qualifiedName first.location decl.location

namespace Resolver

/-- What a resolver makes of an export that it is given first. -/
def resolveAlone (types : TypeMap) (countsReturn : Bool) (decl : ExportDecl) :
    Except (List BindingError) ExportedClass :=
  ((start types countsReturn).resolve decl).1

/-- The faults of an export after some others. -/
def faultsAfter (types : TypeMap) (countsReturn : Bool) (earlier : List ExportDecl)
    (decl : ExportDecl) : List BindingError :=
  (decl.repeatFault? earlier).toList ++ faultsOf (resolveAlone types countsReturn decl)

/-- The faults of a run of exports, each after those before it. -/
def faultsOfRun (types : TypeMap) (countsReturn : Bool) (decls : List ExportDecl) :
    List BindingError :=
  (decls.mapIdx fun index decl => faultsAfter types countsReturn (decls.take index) decl).flatten

variable {types : TypeMap} {countsReturn : Bool}

/-- One more export is given after the others. -/
theorem after_append_singleton (resolver : Resolver) (decls : List ExportDecl)
    (decl : ExportDecl) :
    resolver.after (decls ++ [decl]) = ((resolver.after decls).resolve decl).2 := by
  induction decls generalizing resolver with
  | nil => rfl
  | cons first rest ih => exact ih _

/-- The faults of the next export are its own, behind one for a qualified name that was seen. -/
theorem faultsOf_resolve (resolver : Resolver) (decl : ExportDecl) :
    faultsOf (resolver.resolve decl).1
      = ((resolver.seen.lookup decl.qualifiedName).map fun first =>
          .duplicateExport decl.qualifiedName first decl.location).toList
        ++ faultsOf (resolveExport resolver.types resolver.countsReturn decl) := by
  cases known : resolver.seen.lookup decl.qualifiedName with
  | none =>
      simp only [resolve, known]
      rfl
  | some first =>
      simp only [resolve, known]
      cases resolveExport resolver.types resolver.countsReturn decl <;> rfl

/-- After others, the faults of an export are its own, behind one for a repeated name. -/
theorem faultsOf_resolve_after (earlier : List ExportDecl) (decl : ExportDecl) :
    faultsOf (((start types countsReturn).after earlier).resolve decl).1
      = faultsAfter types countsReturn earlier decl := by
  obtain ⟨sameTypes, samePolicy⟩ := after_settings (start types countsReturn) earlier
  have place : ((start types countsReturn).after earlier).seen.lookup decl.qualifiedName
      = (earlier.find? fun other => other.qualifiedName == decl.qualifiedName).map
          ExportDecl.location :=
    lookup_after (start types countsReturn) earlier decl.qualifiedName
  rw [faultsOf_resolve, place, sameTypes, samePolicy, Option.map_map]
  rfl

/-- The faults of a run are those of its first export and then those of the others. -/
theorem faults_resolveEach_cons (resolver : Resolver) (decl : ExportDecl)
    (rest : List ExportDecl) :
    (resolver.resolveEach (decl :: rest)).2
      = faultsOf (resolver.resolve decl).1 ++ ((resolver.resolve decl).2.resolveEach rest).2 := by
  rw [resolveEach]
  rcases resolver.resolve decl with ⟨outcome, next⟩
  cases outcome <;> rfl

/-- The faults of a run after some exports are those of its exports, each after these and the
ones before it. -/
theorem faults_resolveEach_after (earlier decls : List ExportDecl) :
    (((start types countsReturn).after earlier).resolveEach decls).2
      = (decls.mapIdx fun index decl =>
          faultsAfter types countsReturn (earlier ++ decls.take index) decl).flatten := by
  induction decls generalizing earlier with
  | nil => rfl
  | cons decl rest ih =>
      -- The first export moves to those before, whether it was accepted or not.
      have later := ih (earlier ++ [decl])
      rw [after_append_singleton] at later
      rw [faults_resolveEach_cons, faultsOf_resolve_after, later, List.mapIdx_cons]
      simp

/-- A resolver that has seen nothing accepts a run exactly if each export resolves alone and no
qualified name is repeated, and makes of it what it makes of each alone. Otherwise it reports the
faults of each in order, those of repeated names at the place where the name came first. -/
theorem resolveAll_compositional (types : TypeMap) (countsReturn : Bool)
    (decls : List ExportDecl) :
    ((∃ classes, (start types countsReturn).resolveAll decls = .ok classes) ↔
      (∀ decl ∈ decls, ∃ cls, resolveAlone types countsReturn decl = .ok cls) ∧
        (decls.map ExportDecl.qualifiedName).Nodup) ∧
    (∀ classes, (start types countsReturn).resolveAll decls = .ok classes →
      List.Forall₂ (fun decl cls => resolveAlone types countsReturn decl = .ok cls) decls
        classes) ∧
    ∀ faults, (start types countsReturn).resolveAll decls = .error faults →
      faults = faultsOfRun types countsReturn decls := by
  have accepts : ∀ classes, (start types countsReturn).resolveAll decls = .ok classes ↔
      List.Forall₂ (fun decl cls => resolveAlone types countsReturn decl = .ok cls) decls
        classes ∧ (decls.map ExportDecl.qualifiedName).Nodup :=
    fun _ => resolveAll_start_eq_ok_iff
  refine ⟨?_, fun classes ok => ((accepts classes).mp ok).1, ?_⟩
  · simp only [accepts, exists_and_right, exists_forall₂_iff]
  · intro faults failed
    have found : ((start types countsReturn).resolveEach decls).2
        = faultsOfRun types countsReturn decls :=
      faults_resolveEach_after [] decls
    rw [← found]
    simp only [resolveAll] at failed
    split at failed
    · cases failed
    · cases failed
      rfl

/-- An invalid export takes the name of a valid one all the same. -/
example : (start ⟨⟨8, 8⟩, [], []⟩ false).resolveAll [emptyShapesExport, shapesExport]
    = .error [.unsupportedType "()" "parameter `nothing` of `Shapes::fill`"
        "parameters cannot be unit" .synthetic,
      .duplicateExport "interop::Shapes" .synthetic .synthetic] := by
  rfl

end Resolver

end NativeBridge
