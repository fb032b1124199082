import NetApiDoc.Inventory.Resolve

set_option autoImplicit false

namespace NetApiDoc

namespace Inventory

@[simp] theorem passes_some (names : List String) (e : Entry) :
    passes (some names) e = .ok (e.kind.any names.contains) := by
  unfold passes
  cases e.kind <;> rfl

theorem holdsPassing_some (inv : Inventory) (names : List String) (name : String) :
    inv.holdsPassing (some names) name =
      .ok ((inv.get? name).any fun e => e.kind.any names.contains) := by
  unfold holdsPassing
  cases inv.get? name <;> simp

theorem mem_entries_of_get? {inv : Inventory} {n : String} {e : Entry}
    (h : inv.get? n = some e) : (n, e) ∈ inv.entries := by
  obtain ⟨l₁, l₂, split, -⟩ := List.lookup_eq_some_iff.1 h
  rw [split]
  exact List.mem_append_right l₁ List.mem_cons_self

theorem get?_isSome_of_mem_names {inv : Inventory} {n : String} (h : n ∈ inv.names) :
    (inv.get? n).isSome := by
  obtain ⟨p, mem, rfl⟩ := List.mem_map.1 h
  exact List.lookup_isSome_iff.2 ⟨p, mem, beq_self_eq_true _⟩

theorem get?_isSome_of_contains {inv : Inventory} {n : String} (h : inv.contains n = true) :
    (inv.get? n).isSome := by
  obtain ⟨p, mem, same⟩ := List.any_eq_true.1 h
  rw [beq_iff_eq] at same
  exact get?_isSome_of_mem_names (List.mem_map.2 ⟨p, mem, same⟩)

theorem get?_isSome_of_holdsPassing {inv : Inventory} {filter : Option (List String)}
    {name : String} (h : inv.holdsPassing filter name = .ok true) : (inv.get? name).isSome := by
  unfold holdsPassing at h
  cases found : inv.get? name with
  | none => rw [found] at h; cases h
  | some e => rfl

theorem lookup_map_replace {name : String} {e : Entry} :
    ∀ l : List (String × Entry), l.any (·.1 == name) = true →
      (l.map fun p => if p.1 == name then (name, e) else p).lookup name = some e
  | [], recorded => nomatch recorded
  | (key, e') :: l, recorded => by
    by_cases same : key = name
    · subst same
      simp
    · have differ : (key == name) = false := beq_eq_false_iff_ne.2 same
      have later : l.any (·.1 == name) = true := by simpa [differ] using recorded
      have skip : (name == key) = false := beq_eq_false_iff_ne.2 (Ne.symm same)
      simp only [List.map_cons, differ, Bool.false_eq_true, if_false, List.lookup_cons, skip]
      exact lookup_map_replace l later

theorem get?_insert_self (inv : Inventory) (name : String) (e : Entry) :
    (inv.insert name e).get? name = some e := by
  unfold insert get?
  split
  · exact lookup_map_replace inv.entries ‹_›
  · rename_i fresh
    have absent : inv.entries.lookup name = none := by
      rw [List.lookup_eq_none_iff]
      intro p mem
      apply bne_iff_ne.2
      intro same
      exact fresh (List.any_eq_true.2 ⟨p, mem, by rw [same, beq_self_eq_true]⟩)
    rw [List.lookup_append, absent]
    simp

theorem settle_specific_passing {inv : Inventory} {qualifier : Option String} {name : String}
    {role : Option String} {n : String}
    (h : inv.settle qualifier name role .specific = .ok (some n)) :
    inv.holdsPassing (kindFilter role) n = .ok true ∨ n ∈ inv.endingIn name := by
  simp only [settle, bind, Except.bind, pure, Except.pure] at h
  -- one case for each stage of the search and each answer of the filter
  repeat' split at h
  all_goals simp_all [List.mem_of_getLast?]

theorem get?_isSome_of_settle {inv : Inventory} {qualifier : Option String} {name : String}
    {role : Option String} {mode : SearchMode} {n : String}
    (h : inv.settle qualifier name role mode = .ok (some n)) : (inv.get? n).isSome := by
  cases mode with
  | exact =>
    simp only [settle] at h
    split at h
    · cases h
      exact get?_isSome_of_contains ‹_›
    · split at h
      · cases h
        exact get?_isSome_of_contains (Bool.and_eq_true_iff.1 ‹_›).2
      · cases h
  | specific =>
    rcases settle_specific_passing h with passing | ending
    · exact get?_isSome_of_holdsPassing passing
    · exact get?_isSome_of_mem_names (List.mem_filter.1 ending).1

theorem settle_untyped_ok (inv : Inventory) (qualifier : Option String) (name : String)
    (mode : SearchMode) : ∃ r, inv.settle qualifier name none mode = .ok r := by
  cases mode with
  | exact =>
    simp only [settle]
    split
    · exact ⟨_, rfl⟩
    · split <;> exact ⟨_, rfl⟩
  | specific =>
    simp only [settle, kindFilter, holdsPassing_some, bind, Except.bind, pure, Except.pure]
    repeat' split
    all_goals exact ⟨_, rfl⟩

theorem find_eq (inv : Inventory) (qualifier : Option String) (name : String)
    (role : Option String) (mode : SearchMode) :
    inv.find qualifier name role mode =
      if (soughtName name).isEmpty then .ok .emptyName
      else (inv.settle qualifier (soughtName name) role mode).map fun settled =>
        settled.elim .notFound fun n => .found n ((inv.get? n).getD ⟨none, none⟩) := by
  unfold find
  dsimp only
  split
  · rfl
  · cases inv.settle qualifier (soughtName name) role mode with
    | error e => rfl
    | ok settled =>
      cases settled with
      | none => rfl
      | some n =>
        simp only [bind, Except.bind, Except.map, Option.elim]
        cases inv.get? n <;> rfl

theorem find_found_settles {inv : Inventory} {qualifier : Option String} {name : String}
    {role : Option String} {mode : SearchMode} {n : String} {e : Entry}
    (h : inv.find qualifier name role mode = .ok (.found n e)) :
    inv.settle qualifier (soughtName name) role mode = .ok (some n) ∧ inv.get? n = some e := by
  rw [find_eq] at h
  split at h
  · cases h
  · cases settled : inv.settle qualifier (soughtName name) role mode with
    | error err =>
      rw [settled] at h
      cases h
    | ok r =>
      rw [settled] at h
      cases r with
      | none => cases h
      | some m =>
        -- the settled name is recorded, so its entry is the one found
        obtain ⟨e', recorded⟩ := Option.isSome_iff_exists.1 (get?_isSome_of_settle settled)
        simp only [Except.map, Option.elim, recorded, Option.getD_some, Except.ok.injEq,
          Lookup.found.injEq] at h
        obtain ⟨rfl, rfl⟩ := h
        exact ⟨rfl, recorded⟩

theorem mem_entries_of_find {inv : Inventory} {qualifier : Option String} {name : String}
    {role : Option String} {mode : SearchMode} {n : String} {e : Entry}
    (h : inv.find qualifier name role mode = .ok (.found n e)) : (n, e) ∈ inv.entries :=
  mem_entries_of_get? (find_found_settles h).2

theorem find_untyped_ok (inv : Inventory) (qualifier : Option String) (name : String)
    (mode : SearchMode) : ∃ l, inv.find qualifier name none mode = .ok l := by
  obtain ⟨r, settled⟩ := settle_untyped_ok inv qualifier (soughtName name) mode
  rw [find_eq, settled]
  split <;> exact ⟨_, rfl⟩

end Inventory

theorem referenceNode_error {addr : Addressing} {fromDoc toDoc : Option String}
    {anchor : String} {content : Node} {title : String} {err : Error}
    (h : referenceNode addr fromDoc toDoc anchor content title = .error err) :
    ∃ a b, addr a b = .error err := by
  unfold referenceNode at h
  simp only [bind, Except.bind, pure, Except.pure] at h
  -- the target is an anchor of the same document, or the address of the other one
  repeat' split at h
  all_goals
    cases h
    try exact ⟨_, _, ‹_›⟩

namespace Inventory

theorem resolve_made_at_name {inv : Inventory} {addr : Addressing} {fromDoc : Option String}
    {role target : String} {qualifier : Option String} {specific : Bool} {content node : Node}
    (h : inv.resolve addr fromDoc role target qualifier specific content = .ok (some node)) :
    ∃ n e, inv.find qualifier target (some role) (if specific then .specific else .exact) =
        .ok (.found n e) ∧ referenceNode addr fromDoc e.doc n content n = .ok node := by
  unfold resolve at h
  dsimp only at h
  cases found : inv.find qualifier target (some role) (if specific then .specific else .exact) with
  | error err =>
    rw [found] at h
    cases h
  | ok l =>
    rw [found] at h
    cases l with
    | found n e =>
      refine ⟨n, e, rfl, ?_⟩
      simp only [bind, Except.bind] at h
      cases doc : e.doc with
      | none =>
        rw [doc] at h
        cases h
      | some d =>
        rw [doc] at h
        dsimp only at h
        cases made : referenceNode addr fromDoc (some d) n content n with
        | error err =>
          rw [made] at h
          cases h
        | ok v =>
          rw [made] at h
          cases h
          rfl
    | emptyName => cases h
    | notFound => cases h

theorem resolveAny_made_at_name {inv : Inventory} {addr : Addressing} {fromDoc : Option String}
    {target : String} {qualifier : Option String} {content : Node}
    {results : List (String × Node)}
    (h : inv.resolveAny addr fromDoc target qualifier content = .ok results) :
    ∀ p ∈ results, ∃ n e, inv.find qualifier target none .specific = .ok (.found n e) ∧
      referenceNode addr fromDoc e.doc n content n = .ok p.2 := by
  intro p mem
  unfold resolveAny at h
  cases found : inv.find qualifier target none .specific with
  | error err =>
    rw [found] at h
    cases h
  | ok l =>
    rw [found] at h
    cases l with
    | found n e =>
      refine ⟨n, e, rfl, ?_⟩
      simp only [bind, Except.bind] at h
      split at h
      · cases made : referenceNode addr fromDoc e.doc n content n with
        | error err =>
          rw [made] at h
          cases h
        | ok v =>
          rw [made] at h
          cases h
          rw [List.mem_singleton.1 mem]
      · cases h
    | emptyName => cases h
    | notFound =>
      cases h
      cases mem

theorem resolveAny_eq_kindWithoutRole_iff (inv : Inventory) {addr : Addressing}
    (honest : ∀ a b, addr a b ≠ .error .kindWithoutRole) (fromDoc : Option String)
    (target : String) (qualifier : Option String) (content : Node) :
    inv.resolveAny addr fromDoc target qualifier content = .error .kindWithoutRole ↔
      ∃ n e, inv.find qualifier target none .specific = .ok (.found n e) ∧
        e.kind.bind Domain.roleForKindName = none := by
  obtain ⟨l, found⟩ := find_untyped_ok inv qualifier target .specific
  unfold resolveAny
  rw [found]
  cases l with
  | emptyName => exact ⟨(fun h => nomatch h), fun ⟨_, _, h, _⟩ => nomatch h⟩
  | notFound => exact ⟨(fun h => nomatch h), fun ⟨_, _, h, _⟩ => nomatch h⟩
  | found n e =>
    -- the lookup found an object, and whether its kind has a role decides
    cases role : e.kind.bind Domain.roleForKindName with
    | none =>
      simp only [bind, Except.bind, role]
      exact ⟨fun _ => ⟨n, e, rfl, role⟩, fun _ => rfl⟩
    | some r =>
      refine ⟨fun h => ?_, fun ⟨_, _, same, noRole⟩ => ?_⟩
      · -- only the addressing can fail, and never this way
        simp only [bind, Except.bind, role] at h
        cases node : referenceNode addr fromDoc e.doc n content n with
        | error err =>
          rw [node] at h
          cases h
          obtain ⟨a, b, failed⟩ := referenceNode_error node
          exact absurd failed (honest a b)
        | ok v =>
          rw [node] at h
          cases h
      · cases same
        rw [role] at noRole
        cases noRole

end Inventory

end NetApiDoc
