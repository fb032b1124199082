import NetApiDoc.Proofs.Inventory.KindNames

set_option autoImplicit false

namespace NetApiDoc

theorem Kind.longName_inj {k k' : Kind} (same : k.longName = k'.longName) : k = k' := by
  have named := Kind.ofLongName?_longName k
  rw [same, Kind.ofLongName?_longName] at named
  exact (Option.some.inj named).symm

namespace Inventory

/-- Every object is stored under the long name of its kind, and with its document. -/
def StoredLong (inv : Inventory) : Prop :=
  ∀ p ∈ inv.entries, (∃ k : Kind, p.2.kind = some k.longName) ∧ ∃ d, p.2.doc = some d

theorem longKindName_longName (k : Kind) : longKindName k.longName = k.longName := by
  rw [longKindName, Kind.ofName?_longName]

theorem mapKind_longKindName_of_long {e : Entry} {k : Kind} (kind : e.kind = some k.longName) :
    e.mapKind longKindName = e := by
  cases e
  simp only [Entry.mapKind] at kind ⊢
  rw [kind, Option.map_some, longKindName_longName]

theorem withLongKinds_of_storedLong {inv : Inventory} (long : inv.StoredLong) :
    inv.withLongKinds = inv := by
  obtain ⟨entries, nodup⟩ := inv
  simp only [withLongKinds, mapKinds, Inventory.mk.injEq]
  have unchanged : ∀ p ∈ entries, (p.1, p.2.mapKind longKindName) = id p := by
    intro p mem
    obtain ⟨⟨k, kind⟩, -⟩ := long p mem
    rw [mapKind_longKindName_of_long kind, id]
  exact (List.map_congr_left unchanged).trans (List.map_id entries)

theorem find_untyped_eq_obj {inv : Inventory} (long : inv.StoredLong) (qualifier : Option String)
    (name : String) (mode : SearchMode) :
    inv.find qualifier name none mode = inv.find qualifier name (some "obj") mode := by
  calc inv.find qualifier name none mode
      = inv.withLongKinds.find qualifier name none mode := by
        rw [withLongKinds_of_storedLong long]
    _ = Lookup.mapKind longKindName <$> inv.find qualifier name (some "obj") mode :=
        find_withLongKinds_untyped inv qualifier name mode
    _ = inv.find qualifier name (some "obj") mode := by
        -- what the lookup finds is stored, so its kind is long already
        cases found : inv.find qualifier name (some "obj") mode with
        | error err => rfl
        | ok l =>
          cases l with
          | found n e =>
            obtain ⟨⟨k, kind⟩, -⟩ := long _ (mem_entries_of_find found)
            simp [Functor.map, Except.map, Lookup.mapKind, mapKind_longKindName_of_long kind]
          | emptyName => rfl
          | notFound => rfl

theorem find_obj_ok {inv : Inventory} (long : inv.StoredLong) (qualifier : Option String)
    (name : String) (mode : SearchMode) :
    ∃ l, inv.find qualifier name (some "obj") mode = .ok l := by
  rw [← find_untyped_eq_obj long]
  exact find_untyped_ok inv qualifier name mode

theorem find_eq_emptyName_iff (inv : Inventory) (qualifier : Option String) (name : String)
    (role : Option String) (mode : SearchMode) :
    inv.find qualifier name role mode = .ok .emptyName ↔ (soughtName name).isEmpty = true := by
  rw [find_eq]
  split
  · simp_all
  · rename_i nonempty
    simp only [nonempty, Bool.false_eq_true, iff_false]
    cases inv.settle qualifier (soughtName name) role mode with
    | error err => exact fun h => nomatch h
    | ok settled => cases settled <;> exact fun h => nomatch h

theorem referenceNode_ok {addr : Addressing} (addresses : ∀ a d, ∃ u, addr a (some d) = .ok u)
    (fromDoc : Option String) (d anchor : String) (content : Node) (title : String) :
    ∃ node, referenceNode addr fromDoc (some d) anchor content title = .ok node := by
  obtain ⟨u, addressed⟩ := addresses fromDoc d
  unfold referenceNode
  simp only [bind, Except.bind, pure, Except.pure]
  split
  · exact ⟨_, rfl⟩
  · rw [addressed]
    exact ⟨_, rfl⟩

section references

variable {inv : Inventory} (addr : Addressing) (fromDoc : Option String) (target : String)
  (qualifier : Option String) (content : Node)

theorem resolve_of_found {n : String} {e : Entry} {d : String}
    (found : inv.find qualifier target (some "obj") .specific = .ok (.found n e))
    (doc : e.doc = some d) :
    inv.resolve addr fromDoc "obj" target qualifier true content =
      some <$> referenceNode addr fromDoc (some d) n content n := by
  unfold resolve
  simp only [if_true, found, doc, bind, Except.bind, pure, Except.pure]
  cases referenceNode addr fromDoc (some d) n content n <;> rfl

theorem resolveAny_of_found {n : String} {e : Entry} {k : Kind}
    (found : inv.find qualifier target none .specific = .ok (.found n e))
    (kind : e.kind = some k.longName) :
    inv.resolveAny addr fromDoc target qualifier content =
      (fun node => [("dn:" ++ k.shortName, node)]) <$>
        referenceNode addr fromDoc e.doc n content n := by
  unfold resolveAny
  simp only [found, kind, Option.bind_some, Domain.roleForKindName_longName, bind, Except.bind,
    pure, Except.pure]
  cases referenceNode addr fromDoc e.doc n content n <;> rfl

theorem resolve_of_not_found
    (missed : inv.find qualifier target (some "obj") .specific = .ok .notFound) :
    inv.resolve addr fromDoc "obj" target qualifier true content = .ok none := by
  unfold resolve
  simp only [if_true, missed]
  rfl

theorem resolve_of_emptyName
    (empty : inv.find qualifier target (some "obj") .specific = .ok .emptyName) :
    inv.resolve addr fromDoc "obj" target qualifier true content = .ok none := by
  unfold resolve
  simp only [if_true, empty]
  rfl

end references

/-- How a reference of any role answers beside the specific reference of `obj` to the same
target from the same place. -/
structure AnswersAsObj (inv : Inventory) (addr : Addressing) (fromDoc : Option String)
    (target : String) (qualifier : Option String) (content : Node) : Prop where
  /-- Given a name to seek, the reference of any role answers. -/
  answers : (soughtName target).isEmpty = false →
    ∃ found, inv.resolveAny addr fromDoc target qualifier content = .ok found
  /-- It makes the node that the reference of `obj` makes, with the role of the kind found. -/
  node : ∀ node,
    inv.resolve addr fromDoc "obj" target qualifier true content = .ok (some node) ↔
    ∃ n e, ∃ k : Kind, inv.find qualifier target none .specific = .ok (.found n e) ∧
      e.kind = some k.longName ∧
      inv.resolveAny addr fromDoc target qualifier content = .ok [("dn:" ++ k.shortName, node)]
  /-- It finds nothing exactly where the reference of `obj` seeks a name and finds nothing. -/
  nothing : inv.resolveAny addr fromDoc target qualifier content = .ok [] ↔
    (soughtName target).isEmpty = false ∧
      inv.resolve addr fromDoc "obj" target qualifier true content = .ok none
  /-- An empty name is answered by the reference of `obj` as nothing found, and makes the
  reference of any role fail, with no object to unpack. -/
  emptyName : (soughtName target).isEmpty = true →
    inv.resolveAny addr fromDoc target qualifier content = .error .emptyLookup ∧
      inv.resolve addr fromDoc "obj" target qualifier true content = .ok none

/-- On an inventory that stores every object under the long name of its kind and with its
document, and with an addressing that gives every document an address, a reference of any role
answers as the specific reference of `obj` does, except on an empty name, where it fails. -/
theorem resolveAny_answers_as_specific_obj {inv : Inventory} (long : inv.StoredLong)
    {addr : Addressing} (addresses : ∀ a d, ∃ u, addr a (some d) = .ok u)
    (fromDoc : Option String) (target : String) (qualifier : Option String) (content : Node) :
    AnswersAsObj inv addr fromDoc target qualifier content := by
  have same := find_untyped_eq_obj long qualifier target .specific
  obtain ⟨l, found⟩ := find_obj_ok long qualifier target .specific
  have emptyIff := find_eq_emptyName_iff inv qualifier target (some "obj") .specific
  rw [found] at emptyIff
  -- one case for each answer of the shared lookup
  cases l with
  | emptyName =>
    have empty := emptyIff.1 rfl
    have failed : inv.resolveAny addr fromDoc target qualifier content = .error .emptyLookup := by
      unfold resolveAny
      rw [same, found]
      rfl
    refine ⟨fun nonempty => absurd empty (by simp [nonempty]), fun node => ?_, ?_,
      fun _ => ⟨failed, resolve_of_emptyName addr fromDoc target qualifier content found⟩⟩
    · rw [resolve_of_emptyName addr fromDoc target qualifier content found, same, found]
      simp
    · rw [failed]
      simp [empty]
  | notFound =>
    have nonempty : (soughtName target).isEmpty = false :=
      Bool.eq_false_iff.2 fun empty => nomatch emptyIff.2 empty
    have missed := resolve_of_not_found addr fromDoc target qualifier content found
    have nothing : inv.resolveAny addr fromDoc target qualifier content = .ok [] := by
      unfold resolveAny
      rw [same, found]
      rfl
    refine ⟨fun _ => ⟨_, nothing⟩, fun node => ?_, by simp [nothing, nonempty, missed],
      fun empty => absurd empty (by simp [nonempty])⟩
    rw [missed, same, found]
    simp
  | found n e =>
    have nonempty : (soughtName target).isEmpty = false :=
      Bool.eq_false_iff.2 fun empty => nomatch emptyIff.2 empty
    obtain ⟨⟨k, kind⟩, d, doc⟩ := long _ (mem_entries_of_find found)
    obtain ⟨node, made⟩ := referenceNode_ok addresses fromDoc d n content n
    have resolved : inv.resolve addr fromDoc "obj" target qualifier true content =
        .ok (some node) := by
      rw [resolve_of_found addr fromDoc target qualifier content found doc, made]
      rfl
    have any : inv.resolveAny addr fromDoc target qualifier content =
        .ok [("dn:" ++ k.shortName, node)] := by
      rw [resolveAny_of_found addr fromDoc target qualifier content (same.trans found) kind, doc,
        made]
      rfl
    refine ⟨fun _ => ⟨_, any⟩, fun node' => ?_, by simp [any, resolved],
      fun empty => absurd empty (by simp [nonempty])⟩
    rw [resolved, same, found]
    constructor
    · rintro ⟨⟩
      exact ⟨n, e, k, rfl, kind, any⟩
    · rintro ⟨n', e', k', ⟨⟩, kind', answered⟩
      have sameKind : k' = k := Kind.longName_inj (Option.some.inj (kind'.symm.trans kind))
      subst sameKind
      rw [any] at answered
      simp only [Except.ok.injEq, List.cons.injEq, Prod.mk.injEq, and_true] at answered
      rw [answered.2]

def namespaceAndClass : Inventory :=
  ⟨[("X", ⟨some "index", some "namespace"⟩), ("X.A", ⟨some "index", some "class"⟩)],
    by decide⟩

theorem resolveAny_answers_as_specific_obj_at_class :
    namespaceAndClass.StoredLong ∧ (∀ a d, ∃ u, Addressing.pages a (some d) = .ok u) ∧
      AnswersAsObj namespaceAndClass .pages (some "index") "A" none (.text "A") := by
  have long : namespaceAndClass.StoredLong := by
    intro p mem
    simp only [namespaceAndClass, List.mem_cons, List.not_mem_nil, or_false] at mem
    rcases mem with rfl | rfl
    · exact ⟨⟨.ns, rfl⟩, _, rfl⟩
    · exact ⟨⟨.cls, rfl⟩, _, rfl⟩
  have addresses : ∀ a d, ∃ u, Addressing.pages a (some d) = .ok u :=
    fun _ d => ⟨d ++ ".html", rfl⟩
  exact ⟨long, addresses,
    resolveAny_answers_as_specific_obj long addresses (some "index") "A" none (.text "A")⟩

end Inventory

end NetApiDoc
