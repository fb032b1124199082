import NetApiDoc.Proofs.Inventory.KindNames

set_option autoImplicit false

namespace NetApiDoc

namespace Inventory

def HoldsKindIn (inv : Inventory) (names : List String) (n : String) : Prop :=
  ∃ e, inv.get? n = some e ∧ ∃ k, e.kind = some k ∧ k ∈ names

/-- A typed lookup's last resort: neither the name under a nonempty qualifier nor the name
itself is recorded with one of the kinds, and the name taken is the last recorded one that ends
in a dot and the name. -/
structure FellBack (inv : Inventory) (qualifier : Option String) (name : String)
    (names : List String) (n : String) : Prop where
  last : (inv.endingIn name).getLast? = some n
  qualifiedMissed : isQualifying qualifier = true →
    ¬ inv.HoldsKindIn names (qualified qualifier name)
  itselfMissed : ¬ inv.HoldsKindIn names name

theorem holdsKindIn_iff (inv : Inventory) (names : List String) (n : String) :
    inv.HoldsKindIn names n ↔ ((inv.get? n).any fun e => e.kind.any names.contains) = true := by
  unfold HoldsKindIn
  cases inv.get? n with
  | none => simp
  | some e => cases kind : e.kind <;> simp [kind]

theorem settle_typed {inv : Inventory} {qualifier : Option String} {name role : String}
    {names : List String} (typed : Domain.kindNamesForRole role = some names) {n : String}
    (h : inv.settle qualifier name (some role) .specific = .ok (some n)) :
    inv.HoldsKindIn names n ∨ FellBack inv qualifier name names n := by
  simp only [settle, kindFilter, typed, holdsPassing_some, bind, Except.bind, pure,
    Except.pure] at h
  -- one case for each stage of the search and each answer of the filter; the stages that take
  -- a name take one that passed
  repeat' split at h
  all_goals try simp_all [holdsKindIn_iff]
  -- left is the last stage, reached once both exact names missed
  all_goals exact .inr ⟨h, by simp [holdsKindIn_iff, *], by simp [holdsKindIn_iff, *]⟩

/-- A typed lookup that filters finds an object of one of the role's kinds, unless neither the
name under the qualifier nor the name itself is recorded with such a kind: then it finds the
last recorded name ending in a dot and the name sought, whatever its kind. -/
theorem find_specific_kind_or_fallback (inv : Inventory) (qualifier : Option String)
    (name role : String) (names : List String) (typed : Domain.kindNamesForRole role = some names)
    (n : String) (e : Entry)
    (found : inv.find qualifier name (some role) .specific = .ok (.found n e)) :
    (∃ k, e.kind = some k ∧ k ∈ names) ∨ FellBack inv qualifier (soughtName name) names n := by
  obtain ⟨settled, recorded⟩ := find_found_settles found
  rcases settle_typed typed settled with ⟨e', same, kind⟩ | fell
  · rw [recorded, Option.some.injEq] at same
    subst same
    exact .inl kind
  · exact .inr fell

theorem find_specific_falls_back_on_method :
    (ofList [("A.x", ⟨some "index", some "method"⟩)]).find none "x" (some "cls") .specific =
        .ok (.found "A.x" ⟨some "index", some "method"⟩) ∧
      ∃ names, Domain.kindNamesForRole "cls" = some names ∧ "method" ∉ names ∧
        FellBack (ofList [("A.x", ⟨some "index", some "method"⟩)]) none "x" names "A.x" := by
  have found : (ofList [("A.x", ⟨some "index", some "method"⟩)]).find none "x" (some "cls")
      .specific = .ok (.found "A.x" ⟨some "index", some "method"⟩) :=
    eq_ok_of_toOption (by decide +kernel)
  obtain ⟨names, typed⟩ : ∃ names, Domain.kindNamesForRole "cls" = some names := ⟨_, rfl⟩
  have notMethod : "method" ∉ names := by
    intro mem
    have answers := kindNamesForRole_contains typed "method"
    rw [List.contains_iff_mem.2 mem] at answers
    exact absurd answers (by decide)
  refine ⟨found, names, typed, notMethod, ?_⟩
  rcases find_specific_kind_or_fallback _ none "x" "cls" names typed _ _ found with
    ⟨k, kind, mem⟩ | fell
  · cases kind
    exact absurd mem notMethod
  · exact fell

end Inventory

end NetApiDoc
