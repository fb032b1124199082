import NetApiDoc.Proofs.Build.Nesting
import NetApiDoc.Proofs.Inventory.Lookup

set_option autoImplicit false

namespace NetApiDoc

namespace Build

open NetApiDoc.Markup

def idsOf (attrs : List (String × Value)) : List String :=
  attrs.flatMap fun
    | ("ids", .list vs) => vs.filterMap fun
      | .str s => some s
      | _ => none
    | _ => []

def entryTarget : Value → Option String
  | .list (_ :: _ :: .str t :: _) => some t
  | _ => none

abbrev anchorOf (k : Kind) (full : String) : String := k.shortName ++ "-" ++ full

theorem ne_anchorOf (k : Kind) (full : String) : full ≠ anchorOf k full := by
  intro same
  have lengths := congrArg String.length same
  simp only [anchorOf, String.length_append] at lengths
  have dash : "-".length = 1 := rfl
  omega

@[simp] theorem idsOf_append (a b : List (String × Value)) : idsOf (a ++ b) = idsOf a ++ idsOf b :=
  List.flatMap_append

theorem idsOf_described (d : Describe.Described) :
    idsOf ([("first", Value.bool false)] ++ d.attrs) = [] := rfl

theorem addTarget_run {k : Kind} {objtype : String} {line : Nat} {full : String}
    {r r' : Reading} {attrs : List (String × Value)}
    (h : addTarget k objtype line full r = .ok (attrs, r')) :
    attrs = [] ∨ (idsOf attrs = [anchorOf k full] ∧
      r'.inventory.get? full = some ⟨some r.doc, some objtype⟩) := by
  rcases addTarget_cases h with ⟨rfl, -, -⟩ | ⟨rfl, -, -, -, recorded⟩
  · exact Or.inl rfl
  · refine Or.inr ⟨rfl, ?_⟩
    rw [recorded]
    exact Inventory.get?_insert_self _ _ _

theorem describeSignature_anchors {k : Kind} {objtype : String} {line : Nat}
    {flags : List String} {noindex : Bool} {acc acc' : Signatures} {sig : String}
    {r r' : Reading} (h : describeSignature k objtype line flags noindex acc sig r = .ok (acc', r')) :
    acc'.entries = acc.entries ∨
      ∃ full attrs children, acc'.entries = acc.entries ++ [indexEntry k full] ∧
        acc'.nodes = acc.nodes ++ [.element "desc_signature" attrs children] ∧
        entryTarget (indexEntry k full) = some full ∧
        (idsOf attrs = [] ∨ (idsOf attrs = [anchorOf k full] ∧
          r'.inventory.get? full = some ⟨some r.doc, some objtype⟩)) := by
  simp only [describeSignature, reader_bind, reader_get] at h
  cases described : Describe.describe k flags r.nesting.current sig with
  | error e =>
    rw [described] at h
    obtain ⟨_, _, _, returned⟩ := reader_bind_ok h
    cases returned
    exact Or.inl rfl
  | ok d =>
    rw [described] at h
    dsimp only at h
    -- a name described before, or a directive kept out of the index, files no entry; a new
    -- name files its entry and asks for its anchor
    split at h
    · cases h
      exact Or.inl rfl
    · obtain ⟨anchors, r₁, target, returned⟩ := reader_bind_ok h
      cases returned
      refine Or.inr ⟨d.name.1, _, d.nodes, rfl, rfl, rfl, ?_⟩
      rw [idsOf_append, idsOf_described, List.nil_append]
      rcases addTarget_run target with rfl | registered
      · exact Or.inl rfl
      · exact Or.inr registered

end Build

namespace Build

/-- Index entries and references target an object's full name, never the id of the node that
registered it: a signature line of a kind that files an index entry gives its node at most the
anchor of the kind's short name, a dash and the full name as id (and registers the object
exactly when it gives it), and a reference of a role or of any role resolved against an
inventory is made with the found object's full name as anchor. -/
theorem index_and_references_miss_anchors (k : Kind) (inv : Inventory) :
    (∀ objtype line flags noindex acc sig r acc' r',
      describeSignature k objtype line flags noindex acc sig r = .ok (acc', r') →
      acc'.entries = acc.entries ∨
        ∃ full attrs children, acc'.entries = acc.entries ++ [indexEntry k full] ∧
          acc'.nodes = acc.nodes ++ [.element "desc_signature" attrs children] ∧
          entryTarget (indexEntry k full) = some full ∧ full ∉ idsOf attrs ∧
          (idsOf attrs = [] ∨ (idsOf attrs = [anchorOf k full] ∧
            r'.inventory.get? full = some ⟨some r.doc, some objtype⟩))) ∧
    (∀ addr fromDoc role target qualifier specific content node,
      inv.resolve addr fromDoc role target qualifier specific content = .ok (some node) →
      ∃ n e, inv.find qualifier target (some role) (if specific then .specific else .exact) =
          .ok (.found n e) ∧ referenceNode addr fromDoc e.doc n content n = .ok node ∧
        ∀ kind, n ≠ anchorOf kind n) ∧
    (∀ addr fromDoc target qualifier content results,
      inv.resolveAny addr fromDoc target qualifier content = .ok results →
      ∀ p ∈ results, ∃ n e, inv.find qualifier target none .specific = .ok (.found n e) ∧
        referenceNode addr fromDoc e.doc n content n = .ok p.2 ∧ ∀ kind, n ≠ anchorOf kind n) := by
  refine ⟨?_, ?_, ?_⟩
  · intro objtype line flags noindex acc sig r acc' r' h
    rcases describeSignature_anchors h with same | ⟨full, attrs, children, filed, shown, target, ids⟩
    · exact Or.inl same
    · -- the node's ids are none or the anchor alone, and the full name is neither
      have missed : full ∉ idsOf attrs := by
        rcases ids with none | ⟨anchor, -⟩
        · rw [none]
          exact List.not_mem_nil
        · rw [anchor, List.mem_singleton]
          exact ne_anchorOf k full
      exact Or.inr ⟨full, attrs, children, filed, shown, target, missed, ids⟩
  · intro addr fromDoc role target qualifier specific content node h
    obtain ⟨n, e, found, made⟩ := Inventory.resolve_made_at_name h
    exact ⟨n, e, found, made, fun kind => ne_anchorOf kind n⟩
  · intro addr fromDoc target qualifier content results h p mem
    obtain ⟨n, e, found, made⟩ := Inventory.resolveAny_made_at_name h p mem
    exact ⟨n, e, found, made, fun kind => ne_anchorOf kind n⟩

def readingIndex : Reading := ⟨["index"], "index", .empty, ⟨[]⟩, [], 0, [], []⟩

def classFoo : Inventory := ⟨[("Foo", ⟨some "index", some "class"⟩)], by decide⟩

theorem exists_ok_some_of_toOption {ε α : Type} {x : Except ε (Option α)}
    (h : (x.toOption.bind id).isSome = true) : ∃ a, x = .ok (some a) := by
  cases x with
  | error e => cases h
  | ok o =>
    cases o with
    | none => cases h
    | some a => exact ⟨a, rfl⟩

theorem index_and_references_miss_anchors_at_foo :
    (∃ acc' r', describeSignature .cls "class" 1 [] false ⟨[], [], []⟩ "Foo" readingIndex =
        .ok (acc', r') ∧
      (acc'.entries = [] ∨
        ∃ full attrs children, acc'.entries = [] ++ [indexEntry .cls full] ∧
          acc'.nodes = [] ++ [.element "desc_signature" attrs children] ∧
          entryTarget (indexEntry .cls full) = some full ∧ full ∉ idsOf attrs ∧
          (idsOf attrs = [] ∨ (idsOf attrs = [anchorOf .cls full] ∧
            r'.inventory.get? full = some ⟨some readingIndex.doc, some "class"⟩)))) ∧
    (∃ node, classFoo.resolve .onePage (some "index") "cls" "Foo" none false (.text "Foo") =
        .ok (some node) ∧
      ∃ n e, classFoo.find none "Foo" (some "cls") (if false then .specific else .exact) =
          .ok (.found n e) ∧ referenceNode .onePage (some "index") e.doc n (.text "Foo") n = .ok node ∧
        ∀ kind, n ≠ anchorOf kind n) ∧
    (∃ results, classFoo.resolveAny .onePage (some "index") "Foo" none (.text "Foo") = .ok results ∧
      ∀ p ∈ results, ∃ n e, classFoo.find none "Foo" none .specific = .ok (.found n e) ∧
        referenceNode .onePage (some "index") e.doc n (.text "Foo") n = .ok p.2 ∧
        ∀ kind, n ≠ anchorOf kind n) := by
  obtain ⟨node, resolved⟩ : ∃ node, classFoo.resolve .onePage (some "index") "cls" "Foo" none false
      (.text "Foo") = .ok (some node) := exists_ok_some_of_toOption (by decide +kernel)
  obtain ⟨results, referenced⟩ : ∃ results,
      classFoo.resolveAny .onePage (some "index") "Foo" none (.text "Foo") = .ok results :=
    exists_ok_of_toOption (by decide +kernel)
  have facts := index_and_references_miss_anchors .cls classFoo
  exact ⟨⟨_, _, rfl, facts.1 "class" 1 [] false ⟨[], [], []⟩ "Foo" readingIndex _ _ rfl⟩,
    ⟨node, resolved, facts.2.1 .onePage (some "index") "cls" "Foo" none false (.text "Foo") node
      resolved⟩,
    ⟨results, referenced, facts.2.2 .onePage (some "index") "Foo" none (.text "Foo") results
      referenced⟩⟩

end Build

end NetApiDoc
