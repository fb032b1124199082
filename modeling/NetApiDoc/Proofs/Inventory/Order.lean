import NetApiDoc.Proofs.Inventory.Lookup

set_option autoImplicit false

namespace NetApiDoc

namespace Inventory

/-- Two inventories record the same entry under every name. -/
def SameObjects (inv inv' : Inventory) : Prop := ∀ name, inv.get? name = inv'.get? name

theorem contains_eq_isSome_get? (inv : Inventory) (name : String) :
    inv.contains name = (inv.get? name).isSome := by
  unfold contains get?
  induction inv.entries with
  | nil => rfl
  | cons p ps ih =>
    obtain ⟨key, e⟩ := p
    by_cases same : key = name
    · simp [same]
    · have differ : (name == key) = false := beq_eq_false_iff_ne.2 (Ne.symm same)
      have differ' : (key == name) = false := beq_eq_false_iff_ne.2 same
      simp only [List.any_cons, List.lookup_cons, differ, differ', Bool.false_or, ih]

theorem mem_names_iff (inv : Inventory) (name : String) :
    name ∈ inv.names ↔ (inv.get? name).isSome := by
  refine ⟨get?_isSome_of_mem_names, fun found => ?_⟩
  rw [← contains_eq_isSome_get?] at found
  obtain ⟨p, mem, same⟩ := List.any_eq_true.1 found
  exact List.mem_map.2 ⟨p, mem, beq_iff_eq.1 same⟩

namespace SameObjects

variable {inv inv' : Inventory}

theorem contains_eq (same : inv.SameObjects inv') (name : String) :
    inv.contains name = inv'.contains name := by
  rw [contains_eq_isSome_get?, contains_eq_isSome_get?, same name]

theorem holdsPassing_eq (same : inv.SameObjects inv') (filter : Option (List String))
    (name : String) : inv.holdsPassing filter name = inv'.holdsPassing filter name := by
  unfold holdsPassing
  rw [same name]

theorem names_perm (same : inv.SameObjects inv') : inv.names.Perm inv'.names := by
  unfold names
  rw [List.perm_ext_iff_of_nodup inv.nodup inv'.nodup]
  intro name
  have mem := mem_names_iff inv name
  have mem' := mem_names_iff inv' name
  unfold names at mem mem'
  rw [mem, mem', same name]

theorem endingIn_perm (same : inv.SameObjects inv') (name : String) :
    (inv.endingIn name).Perm (inv'.endingIn name) :=
  same.names_perm.filter _

theorem lastEnding_eq (same : inv.SameObjects inv') {name : String}
    (few : (inv.endingIn name).length ≤ 1) :
    (inv.endingIn name).getLast? = (inv'.endingIn name).getLast? := by
  have perm := same.endingIn_perm name
  match ending : inv.endingIn name, few with
  | [], _ =>
    rw [ending] at perm
    rw [List.Perm.nil_eq perm]
  | [n], _ =>
    rw [ending] at perm
    rw [List.singleton_perm.1 perm]

theorem settle_eq (same : inv.SameObjects inv') (qualifier : Option String) (name : String)
    (role : Option String) : ∀ mode, ((inv.endingIn name).getLast? =
      (inv'.endingIn name).getLast? ∨ mode = .exact) →
      inv.settle qualifier name role mode = inv'.settle qualifier name role mode
  | .exact, _ => by simp only [settle, same.contains_eq]
  | .specific, lastAlike => by
    -- only the fallback reads the order of the names
    have lastAlike := lastAlike.resolve_right (by simp)
    simp only [settle, same.holdsPassing_eq, lastAlike]

theorem find_eq_of_settle (same : inv.SameObjects inv') {qualifier : Option String}
    {name : String} {role : Option String} {mode : SearchMode}
    (settled : inv.settle qualifier (soughtName name) role mode =
      inv'.settle qualifier (soughtName name) role mode) :
    inv.find qualifier name role mode = inv'.find qualifier name role mode := by
  rw [find_eq, find_eq, settled]
  simp only [same _]

end SameObjects

theorem resolve_eq_of_find {inv inv' : Inventory} (addr : Addressing) (fromDoc : Option String)
    {role target : String} {qualifier : Option String} {specific : Bool} (content : Node)
    (found : inv.find qualifier target (some role) (if specific then .specific else .exact) =
      inv'.find qualifier target (some role) (if specific then .specific else .exact)) :
    inv.resolve addr fromDoc role target qualifier specific content =
      inv'.resolve addr fromDoc role target qualifier specific content := by
  unfold resolve
  dsimp only
  rw [found]

theorem resolveAny_eq_of_find {inv inv' : Inventory} (addr : Addressing)
    (fromDoc : Option String) {target : String} {qualifier : Option String} (content : Node)
    (found : inv.find qualifier target none .specific = inv'.find qualifier target none .specific) :
    inv.resolveAny addr fromDoc target qualifier content =
      inv'.resolveAny addr fromDoc target qualifier content := by
  unfold resolveAny
  rw [found]

/-- Two inventories answer a name alike: exact lookups and references not marked specific
always, and every lookup and reference when at most one recorded name ends in the one sought or
the last recorded such name is the same in both. -/
structure AnswersAlike (inv inv' : Inventory) (qualifier : Option String) (name : String) :
    Prop where
  find_exact : ∀ role, inv.find qualifier name role .exact = inv'.find qualifier name role .exact
  resolve_exact : ∀ addr fromDoc role content,
    inv.resolve addr fromDoc role name qualifier false content =
      inv'.resolve addr fromDoc role name qualifier false content
  of_lastAlike : (inv.endingIn (soughtName name)).length ≤ 1 ∨
      (inv.endingIn (soughtName name)).getLast? = (inv'.endingIn (soughtName name)).getLast? →
    (∀ role mode, inv.find qualifier name role mode = inv'.find qualifier name role mode) ∧
    (∀ addr fromDoc role specific content,
      inv.resolve addr fromDoc role name qualifier specific content =
        inv'.resolve addr fromDoc role name qualifier specific content) ∧
    (∀ addr fromDoc content, inv.resolveAny addr fromDoc name qualifier content =
        inv'.resolveAny addr fromDoc name qualifier content)

/-- Lookups and references do not depend on the order in which objects were recorded, except
through the fallback of a specific lookup, which settles on the last recorded name ending in the
one sought. -/
theorem lookup_blind_to_order {inv inv' : Inventory} (same : inv.SameObjects inv')
    (qualifier : Option String) (name : String) : AnswersAlike inv inv' qualifier name := by
  have exact :
      ∀ role, inv.find qualifier name role .exact = inv'.find qualifier name role .exact :=
    fun role => same.find_eq_of_settle (same.settle_eq _ _ _ .exact (.inr rfl))
  refine ⟨exact, fun addr fromDoc role content =>
    resolve_eq_of_find addr fromDoc content (exact _), fun alike => ?_⟩
  have lastAlike := alike.elim same.lastEnding_eq id
  -- with the fallback settled alike, every stage of every lookup agrees
  have found :
      ∀ role mode, inv.find qualifier name role mode = inv'.find qualifier name role mode :=
    fun role mode => same.find_eq_of_settle (same.settle_eq _ _ _ mode (.inl lastAlike))
  exact ⟨found, fun addr fromDoc role specific content =>
    resolve_eq_of_find addr fromDoc content (found _ _),
    fun addr fromDoc content => resolveAny_eq_of_find addr fromDoc content (found _ _)⟩

theorem sameObjects_swap {a b : String} {ea eb : Entry} (differ : a ≠ b)
    (nodup : ([(a, ea), (b, eb)].map Prod.fst).Nodup)
    (nodup' : ([(b, eb), (a, ea)].map Prod.fst).Nodup) :
    SameObjects ⟨[(a, ea), (b, eb)], nodup⟩ ⟨[(b, eb), (a, ea)], nodup'⟩ := by
  intro name
  simp only [get?, List.lookup_cons, List.lookup_nil]
  by_cases isA : name = a
  · have notB : (a == b) = false := beq_eq_false_iff_ne.2 differ
    simp [isA, notB]
  · have notA : (name == a) = false := beq_eq_false_iff_ne.2 isA
    simp [notA]

/-- Two inventories with the same two objects `A.x` and `B.x`, recorded in either order, settle
a specific lookup of `x` on different objects: each on the one it recorded last. -/
theorem fallback_follows_recording_order :
    let first : Inventory := ⟨[("A.x", ⟨some "index", some "class"⟩),
      ("B.x", ⟨some "other", some "class"⟩)], by decide⟩
    let second : Inventory := ⟨[("B.x", ⟨some "other", some "class"⟩),
      ("A.x", ⟨some "index", some "class"⟩)], by decide⟩
    first.SameObjects second ∧
      first.find none "x" none .specific = .ok (.found "B.x" ⟨some "other", some "class"⟩) ∧
      second.find none "x" none .specific = .ok (.found "A.x" ⟨some "index", some "class"⟩) :=
  ⟨sameObjects_swap (by decide) _ _, eq_ok_of_toOption (by decide +kernel),
    eq_ok_of_toOption (by decide +kernel)⟩

theorem lookup_blind_to_order_at_two_endings :
    let first : Inventory := ⟨[("A.x", ⟨some "index", some "class"⟩),
      ("B.x", ⟨some "other", some "class"⟩)], by decide⟩
    let second : Inventory := ⟨[("B.x", ⟨some "other", some "class"⟩),
      ("A.x", ⟨some "index", some "class"⟩)], by decide⟩
    first.SameObjects second ∧ AnswersAlike first second none "A.x" :=
  ⟨sameObjects_swap (by decide) _ _,
    lookup_blind_to_order (sameObjects_swap (by decide) _ _) _ _⟩

end Inventory

end NetApiDoc
