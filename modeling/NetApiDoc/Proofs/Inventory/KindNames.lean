import NetApiDoc.Inventory.Session
import NetApiDoc.Proofs.Inventory.Lookup

set_option autoImplicit false

namespace NetApiDoc

def longKindName (n : String) : String :=
  match Kind.ofName? n with
  | some k => k.longName
  | none => n

namespace Kind

theorem ofName?_eq_some_iff {n : String} {k : Kind} :
    ofName? n = some k ↔ n = k.shortName ∨ n = k.longName := by
  constructor
  · intro h
    have found := List.find?_some h
    simp only [Bool.or_eq_true, beq_iff_eq] at found
    exact found.imp Eq.symm Eq.symm
  · rintro (rfl | rfl)
    · exact ofName?_shortName k
    · exact ofName?_longName k

end Kind

theorem ofName?_longKindName (n : String) : Kind.ofName? (longKindName n) = Kind.ofName? n := by
  unfold longKindName
  cases h : Kind.ofName? n with
  | none => rw [h]
  | some k => exact Kind.ofName?_longName k

theorem Kind.mem_all (k : Kind) : k ∈ Kind.all := by
  cases k <;> simp [Kind.all]

theorem longNames_contains_longKindName (n : String) :
    (Kind.all.map Kind.longName).contains (longKindName n) = (Kind.ofName? n).isSome := by
  unfold longKindName
  cases found : Kind.ofName? n with
  | some k => simpa using ⟨k, Kind.mem_all k, rfl⟩
  | none =>
    dsimp only
    apply Bool.eq_false_iff.2
    intro listed
    obtain ⟨k, -, long⟩ := List.mem_map.1 (List.contains_iff_mem.1 listed)
    rw [← long, Kind.ofName?_longName] at found
    cases found

theorem longKindName_eq_namespace {n : String} (short : n ≠ "ns") :
    longKindName n = "namespace" ↔ n = "namespace" := by
  constructor
  · intro long
    unfold longKindName at long
    cases found : Kind.ofName? n with
    | none => rwa [found] at long
    | some k =>
      rw [found] at long
      dsimp only at long
      have isNs : k = .ns := by
        cases k <;> first | rfl | exact absurd long (by decide)
      subst isNs
      exact (Kind.ofName?_eq_some_iff.1 found).resolve_left short
  · rintro rfl
    rfl

namespace Domain

theorem roleForKindName_longName (k : Kind) : roleForKindName k.longName = some k.shortName := by
  rw [roleForKindName, Kind.ofLongName?_longName, Option.map_some]

theorem roleForKindName_shortName (k : Kind) :
    roleForKindName k.shortName = if k.shortName = k.longName then some k.shortName else none := by
  cases k <;> rfl

theorem roleForKindName_eq_none_iff {m : String} {k : Kind} (named : Kind.ofName? m = some k) :
    roleForKindName m = none ↔ m = k.shortName ∧ k.shortName ≠ k.longName := by
  rcases Kind.ofName?_eq_some_iff.1 named with rfl | rfl
  · rw [roleForKindName_shortName]
    by_cases same : k.shortName = k.longName
    · simp [same]
    · simp [same]
  · rw [roleForKindName_longName]
    exact ⟨(fun h => nomatch h), fun ⟨long, short⟩ => absurd long.symm short⟩

end Domain

theorem kindNamesForRole_contains {role : String} {names : List String}
    (h : Domain.kindNamesForRole role = some names) (n : String) :
    names.contains n = (Kind.ofName? n).any fun k => (Domain.kindRoles k).contains role := by
  unfold Domain.kindNamesForRole at h
  dsimp only at h
  split at h
  · cases h
  · cases h
    apply Bool.eq_iff_iff.2
    simp only [List.contains_iff_mem, List.mem_flatMap, List.mem_filter, beq_iff_eq,
      List.mem_cons, List.not_mem_nil, or_false, Option.any_eq_true]
    constructor
    · rintro ⟨k, -, r, ⟨known, rfl⟩, named⟩
      exact ⟨k, Kind.ofName?_eq_some_iff.2 named, known⟩
    · rintro ⟨k, found, answers⟩
      exact ⟨k, List.mem_of_find?_eq_some found, role, ⟨answers, rfl⟩,
        Kind.ofName?_eq_some_iff.1 found⟩

theorem kindNamesForRole_contains_long {role : String} {names : List String}
    (h : Domain.kindNamesForRole role = some names) (n : String) :
    names.contains (longKindName n) = names.contains n := by
  rw [kindNamesForRole_contains h, kindNamesForRole_contains h, ofName?_longKindName]

def Entry.mapKind (f : String → String) (e : Entry) : Entry := ⟨e.doc, e.kind.map f⟩

def Lookup.mapKind (f : String → String) : Lookup → Lookup
  | .found n e => .found n (e.mapKind f)
  | l => l

namespace Inventory

def mapKinds (inv : Inventory) (f : String → String) : Inventory :=
  ⟨inv.entries.map fun p => (p.1, p.2.mapKind f), by
    rw [List.map_map]
    exact inv.nodup⟩

def withLongKinds (inv : Inventory) : Inventory := inv.mapKinds longKindName

theorem mapKinds_congr (inv : Inventory) {f g : String → String}
    (agree : ∀ p ∈ inv.entries, p.2.kind.map f = p.2.kind.map g) :
    inv.mapKinds f = inv.mapKinds g := by
  simp only [mapKinds, Inventory.mk.injEq]
  apply List.map_congr_left
  intro p mem
  simp [Entry.mapKind, agree p mem]

theorem lookup_map_snd (name : String) (f : Entry → Entry) :
    ∀ l : List (String × Entry), (l.map fun p => (p.1, f p.2)).lookup name = (l.lookup name).map f
  | [] => rfl
  | (key, e) :: l => by
    by_cases same : name = key
    · simp [same]
    · have differ : (name == key) = false := beq_eq_false_iff_ne.2 same
      simp only [List.map_cons, List.lookup_cons, differ]
      exact lookup_map_snd name f l

section mapKinds

variable (inv : Inventory) (f : String → String)

@[simp] theorem names_mapKinds : (inv.mapKinds f).names = inv.names := by
  simp [names, mapKinds, List.map_map, Function.comp_def]

@[simp] theorem contains_mapKinds (name : String) :
    (inv.mapKinds f).contains name = inv.contains name := by
  simp [contains, mapKinds, List.any_map, Function.comp_def]

@[simp] theorem endingIn_mapKinds (name : String) :
    (inv.mapKinds f).endingIn name = inv.endingIn name := by
  simp [endingIn]

@[simp] theorem get?_mapKinds (name : String) :
    (inv.mapKinds f).get? name = (inv.get? name).map (Entry.mapKind f) :=
  lookup_map_snd name (Entry.mapKind f) inv.entries

end mapKinds

theorem passes_withLongKind (role : String) (e : Entry) :
    passes (kindFilter (some role)) (e.mapKind longKindName) = passes (kindFilter (some role)) e := by
  cases h : Domain.kindNamesForRole role with
  | none => simp [passes, kindFilter, h]
  | some names =>
    simp only [kindFilter, h, passes_some, Entry.mapKind]
    cases e.kind with
    | none => rfl
    | some n => exact congrArg Except.ok (kindNamesForRole_contains_long h n)

theorem passes_untyped_withLongKind (e : Entry) :
    passes (kindFilter none) (e.mapKind longKindName) = passes (kindFilter (some "obj")) e := by
  obtain ⟨names, h⟩ : ∃ names, Domain.kindNamesForRole "obj" = some names := ⟨_, rfl⟩
  simp only [kindFilter, h, passes_some, Entry.mapKind]
  cases e.kind with
  | none => rfl
  | some n =>
    have every : names.contains n = (Kind.ofName? n).isSome := by
      rw [kindNamesForRole_contains h]
      cases Kind.ofName? n <;> simp [Domain.kindRoles]
    exact congrArg Except.ok ((longNames_contains_longKindName n).trans every.symm)

section filters

variable (inv : Inventory) (f : String → String) {role role' : Option String}

theorem holdsPassing_mapKinds
    (same : ∀ e, passes (kindFilter role) (e.mapKind f) = passes (kindFilter role') e)
    (name : String) :
    (inv.mapKinds f).holdsPassing (kindFilter role) name =
      inv.holdsPassing (kindFilter role') name := by
  unfold holdsPassing
  rw [get?_mapKinds]
  cases inv.get? name with
  | none => rfl
  | some e => exact same e

theorem settle_mapKinds
    (same : ∀ e, passes (kindFilter role) (e.mapKind f) = passes (kindFilter role') e)
    (qualifier : Option String) (name : String) (mode : SearchMode) :
    (inv.mapKinds f).settle qualifier name role mode = inv.settle qualifier name role' mode := by
  -- an exact lookup reads no kind; a specific one reads kinds only through the filter
  cases mode with
  | exact => simp [settle]
  | specific => simp only [settle, holdsPassing_mapKinds inv f same, endingIn_mapKinds]

theorem find_mapKinds
    (same : ∀ e, passes (kindFilter role) (e.mapKind f) = passes (kindFilter role') e)
    (qualifier : Option String) (name : String) (mode : SearchMode) :
    (inv.mapKinds f).find qualifier name role mode =
      Lookup.mapKind f <$> inv.find qualifier name role' mode := by
  rw [find_eq, find_eq, settle_mapKinds inv f same]
  split
  · rfl
  · cases inv.settle qualifier (soughtName name) role' mode with
    | error e => rfl
    | ok settled =>
      cases settled with
      | none => rfl
      | some n =>
        simp only [Except.map, Option.elim, get?_mapKinds]
        cases inv.get? n <;> rfl

end filters

theorem find_withLongKinds (inv : Inventory) (qualifier : Option String) (name role : String)
    (mode : SearchMode) :
    inv.withLongKinds.find qualifier name (some role) mode =
      Lookup.mapKind longKindName <$> inv.find qualifier name (some role) mode :=
  find_mapKinds inv longKindName (passes_withLongKind role) qualifier name mode

theorem find_withLongKinds_untyped (inv : Inventory) (qualifier : Option String) (name : String)
    (mode : SearchMode) :
    inv.withLongKinds.find qualifier name none mode =
      Lookup.mapKind longKindName <$> inv.find qualifier name (some "obj") mode :=
  find_mapKinds inv longKindName passes_untyped_withLongKind qualifier name mode

theorem resolve_withLongKinds (inv : Inventory) (addr : Addressing) (fromDoc : Option String)
    (role target : String) (qualifier : Option String) (specific : Bool) (content : Node) :
    inv.withLongKinds.resolve addr fromDoc role target qualifier specific content =
      inv.resolve addr fromDoc role target qualifier specific content := by
  unfold resolve
  dsimp only
  rw [find_withLongKinds inv qualifier target role]
  cases inv.find qualifier target (some role) (if specific then .specific else .exact) with
  | error e => rfl
  | ok l => cases l <;> rfl

theorem listing_withLongKinds (inv : Inventory) : inv.withLongKinds.listing = inv.listing := by
  unfold listing withLongKinds mapKinds
  rw [List.mapM_map]
  congr 1
  funext p
  simp only [Function.comp_def, Entry.mapKind, Option.bind_map, ofName?_longKindName]
  -- an unknown kind is reported as stored, and the long name of an unknown name is the name
  cases hk : p.2.kind with
  | none => rfl
  | some n =>
    cases known : Kind.ofName? n with
    | some k => simp [known]
    | none => simp [known, longKindName]

/-! ### The module index, piece by piece -/

def indexKeyed (entries : List (String × Entry)) : Except Error (List (String × String × Entry)) :=
  entries.mapM fun p => do return (← docKey p.2, p)

def indexChosen (docs : List String) (keyed : List (String × String × Entry)) :
    List (String × String × Entry) :=
  (keyed.mergeSort fun a b => Domain.textLe a.1 b.1).filter fun (_, _, e) =>
    (docs.isEmpty || docs.any (some · == e.doc)) && e.kind == some "namespace"

def indexGroups (chosen : List (String × String × Entry)) :
    Except Error (List (String × List IndexLine)) :=
  chosen.foldlM (fun groups (_, name, _) => do
    return fileUnder groups (← indexLetter name) (namespaceLine name)) []

theorem moduleIndex_eq (inv : Inventory) (docs : List String) :
    inv.moduleIndex docs = (do
      let groups ← indexGroups (indexChosen docs (← indexKeyed inv.entries))
      return groups.mergeSort fun a b => Domain.textLe a.1 b.1) := rfl

def keyedMapKind (f : String → String) (x : String × String × Entry) : String × String × Entry :=
  (x.1, x.2.1, x.2.2.mapKind f)

theorem indexKeyed_mapKind (f : String → String) :
    ∀ l : List (String × Entry),
      indexKeyed (l.map fun p => (p.1, p.2.mapKind f)) = List.map (keyedMapKind f) <$> indexKeyed l
  | [] => rfl
  | p :: l => by
    have sameKey : docKey (p.2.mapKind f) = docKey p.2 := rfl
    have rest := indexKeyed_mapKind f l
    unfold indexKeyed at rest ⊢
    simp only [List.map_cons, List.mapM_cons, sameKey]
    cases docKey p.2 with
    | error e => rfl
    | ok key =>
      simp only [rest]
      cases l.mapM (fun p => do return (← docKey p.2, p)) <;> rfl

theorem indexChosen_mapKind (f : String → String) (keeps : ∀ n, f n = "namespace" ↔ n = "namespace")
    (docs : List String) (keyed : List (String × String × Entry)) :
    indexChosen docs (keyed.map (keyedMapKind f)) = (indexChosen docs keyed).map (keyedMapKind f) := by
  unfold indexChosen
  -- sorting looks at the keys only, which the rewriting keeps
  have sorted : (keyed.map (keyedMapKind f)).mergeSort (fun a b => Domain.textLe a.1 b.1) =
      (keyed.mergeSort fun a b => Domain.textLe a.1 b.1).map (keyedMapKind f) :=
    (List.map_mergeSort fun a _ b _ => by simp only [keyedMapKind]).symm
  rw [sorted, List.filter_map]
  congr 1
  apply List.filter_congr
  intro x _
  -- the kind is read only to ask whether it is `namespace`
  cases hk : x.2.2.kind with
  | none => simp [keyedMapKind, Entry.mapKind, hk]
  | some n =>
    have same : (f n == "namespace") = (n == "namespace") := by
      by_cases hn : n = "namespace"
      · rw [(keeps n).2 hn, hn]
      · rw [beq_eq_false_iff_ne.2 hn, beq_eq_false_iff_ne.2 fun h => hn ((keeps n).1 h)]
    simp [keyedMapKind, Entry.mapKind, hk, same]

theorem indexGroups_mapKind (f : String → String) (chosen : List (String × String × Entry)) :
    indexGroups (chosen.map (keyedMapKind f)) = indexGroups chosen := by
  unfold indexGroups
  rw [List.foldlM_map]
  rfl

theorem moduleIndex_mapKinds (inv : Inventory) (f : String → String)
    (keeps : ∀ n, f n = "namespace" ↔ n = "namespace") (docs : List String) :
    (inv.mapKinds f).moduleIndex docs = inv.moduleIndex docs := by
  rw [moduleIndex_eq, moduleIndex_eq, mapKinds]
  dsimp only
  rw [indexKeyed_mapKind f inv.entries]
  cases indexKeyed inv.entries with
  | error e => rfl
  | ok keyed =>
    show (do
      let groups ← indexGroups (indexChosen docs (keyed.map (keyedMapKind f)))
      return groups.mergeSort fun a b => Domain.textLe a.1 b.1) = (do
      let groups ← indexGroups (indexChosen docs keyed)
      return groups.mergeSort fun a b => Domain.textLe a.1 b.1)
    rw [indexChosen_mapKind f keeps, indexGroups_mapKind]

theorem moduleIndex_withLongKinds (inv : Inventory) (docs : List String)
    (noShortNamespace : ∀ p ∈ inv.entries, p.2.kind ≠ some "ns") :
    inv.withLongKinds.moduleIndex docs = inv.moduleIndex docs := by
  -- there, writing kinds long is writing every kind but ns long, which keeps namespace-ness
  have same : inv.withLongKinds =
      inv.mapKinds fun n => if n = "ns" then n else longKindName n := by
    apply mapKinds_congr
    intro p mem
    cases hk : p.2.kind with
    | none => rfl
    | some n =>
      have short : n ≠ "ns" := fun h => noShortNamespace p mem (h ▸ hk)
      simp [short]
  rw [same]
  apply moduleIndex_mapKinds
  intro n
  by_cases short : n = "ns"
  · subst short
    simp
  · rw [if_neg short]
    exact longKindName_eq_namespace short

/-! ### References of any role -/

def directiveNamed (inv : Inventory) : Bool :=
  inv.entries.all fun p => (p.2.kind.bind Kind.ofName?).isSome

theorem kind_of_directiveNamed {inv : Inventory} (named : inv.directiveNamed = true)
    {n : String} {e : Entry} (mem : (n, e) ∈ inv.entries) :
    ∃ k m, e.kind = some m ∧ Kind.ofName? m = some k := by
  have stored := List.all_eq_true.1 named (n, e) mem
  cases hk : e.kind with
  | none => simp [hk] at stored
  | some m =>
    obtain ⟨k, found⟩ := Option.isSome_iff_exists.1 (by simpa [hk] using stored)
    exact ⟨k, m, rfl, found⟩

theorem resolveAny_withLongKinds_has_role {inv : Inventory} (named : inv.directiveNamed = true)
    {addr : Addressing} (honest : ∀ a b, addr a b ≠ .error .kindWithoutRole)
    (fromDoc : Option String) (target : String) (qualifier : Option String) (content : Node) :
    inv.withLongKinds.resolveAny addr fromDoc target qualifier content ≠ .error .kindWithoutRole := by
  rw [Ne, resolveAny_eq_kindWithoutRole_iff _ honest]
  rintro ⟨n, e, found, noRole⟩
  -- what the lookup found is an object of the inventory with its kind written long
  have stored := mem_entries_of_find found
  simp only [withLongKinds, mapKinds, List.mem_map, Prod.mk.injEq] at stored
  obtain ⟨⟨_, e₀⟩, mem, rfl, rfl⟩ := stored
  obtain ⟨k, m, kind, named⟩ := kind_of_directiveNamed named mem
  have long : longKindName m = k.longName := by rw [longKindName, named]
  rw [Entry.mapKind, kind, Option.map_some, long, Option.bind_some,
    Domain.roleForKindName_longName] at noRole
  cases noRole

theorem resolveAny_kindWithoutRole_iff_short {inv : Inventory} (named : inv.directiveNamed = true)
    {addr : Addressing} (honest : ∀ a b, addr a b ≠ .error .kindWithoutRole)
    (fromDoc : Option String) (target : String) (qualifier : Option String) (content : Node) :
    inv.resolveAny addr fromDoc target qualifier content = .error .kindWithoutRole ↔
      ∃ n e, ∃ k : Kind, inv.find qualifier target none .specific = .ok (.found n e) ∧
        e.kind = some k.shortName ∧ k.shortName ≠ k.longName := by
  rw [resolveAny_eq_kindWithoutRole_iff _ honest]
  constructor
  · rintro ⟨n, e, found, noRole⟩
    obtain ⟨k, m, kind, named⟩ := kind_of_directiveNamed named (mem_entries_of_find found)
    rw [kind, Option.bind_some] at noRole
    obtain ⟨rfl, short⟩ := (Domain.roleForKindName_eq_none_iff named).1 noRole
    exact ⟨n, e, k, found, kind, short⟩
  · rintro ⟨n, e, k, found, kind, short⟩
    refine ⟨n, e, found, ?_⟩
    rw [kind, Option.bind_some, Domain.roleForKindName_shortName, if_neg short]

/-- Writing every stored kind as its long name: lookups and references of a role find the
same objects, the listing is the same, and so is the module index unless an object is stored
as `ns`. A lookup of any role, which filters by long names, becomes the lookup of `obj` with
kinds as stored; the reference it makes always has a role to report once kinds are long, while
with kinds as stored it has none exactly when its lookup lands on an object stored under a
short name that is not also the long one. -/
theorem short_and_long_kind_names (inv : Inventory) :
    (∀ qualifier name role mode, inv.withLongKinds.find qualifier name (some role) mode =
        Lookup.mapKind longKindName <$> inv.find qualifier name (some role) mode) ∧
    (∀ qualifier name mode, inv.withLongKinds.find qualifier name none mode =
        Lookup.mapKind longKindName <$> inv.find qualifier name (some "obj") mode) ∧
    (∀ addr fromDoc role target qualifier specific content,
        inv.withLongKinds.resolve addr fromDoc role target qualifier specific content =
          inv.resolve addr fromDoc role target qualifier specific content) ∧
    inv.withLongKinds.listing = inv.listing ∧
    (∀ docs, (∀ p ∈ inv.entries, p.2.kind ≠ some "ns") →
        inv.withLongKinds.moduleIndex docs = inv.moduleIndex docs) ∧
    (inv.directiveNamed = true → ∀ addr : Addressing, (∀ a b, addr a b ≠ .error .kindWithoutRole) →
      ∀ fromDoc target qualifier content,
        inv.withLongKinds.resolveAny addr fromDoc target qualifier content ≠
            .error .kindWithoutRole ∧
          (inv.resolveAny addr fromDoc target qualifier content = .error .kindWithoutRole ↔
            ∃ n e, ∃ k : Kind, inv.find qualifier target none .specific = .ok (.found n e) ∧
              e.kind = some k.shortName ∧ k.shortName ≠ k.longName)) :=
  ⟨fun qualifier name role mode => find_withLongKinds inv qualifier name role mode,
    fun qualifier name mode => find_withLongKinds_untyped inv qualifier name mode,
    fun addr fromDoc role target qualifier specific content =>
      resolve_withLongKinds inv addr fromDoc role target qualifier specific content,
    listing_withLongKinds inv,
    fun docs noShortNamespace => moduleIndex_withLongKinds inv docs noShortNamespace,
    fun named _ honest fromDoc target qualifier content =>
      ⟨resolveAny_withLongKinds_has_role named honest fromDoc target qualifier content,
        resolveAny_kindWithoutRole_iff_short named honest fromDoc target qualifier content⟩⟩

def namespaceAndShortClass : Inventory :=
  ⟨[("X", ⟨some "index", some "namespace"⟩), ("X.A", ⟨some "index", some "cls"⟩)], by decide⟩

theorem short_and_long_kind_names_at_short_class :
    namespaceAndShortClass.withLongKinds.find none "A" (some "cls") .specific =
        Lookup.mapKind longKindName <$> namespaceAndShortClass.find none "A" (some "cls") .specific ∧
      namespaceAndShortClass.withLongKinds.moduleIndex [] = namespaceAndShortClass.moduleIndex [] ∧
      namespaceAndShortClass.withLongKinds.resolveAny .pages (some "index") "A" none (.text "A") ≠
          .error .kindWithoutRole ∧
      (namespaceAndShortClass.resolveAny .pages (some "index") "A" none (.text "A") =
          .error .kindWithoutRole ↔
        ∃ n e, ∃ k : Kind, namespaceAndShortClass.find none "A" none .specific = .ok (.found n e) ∧
          e.kind = some k.shortName ∧ k.shortName ≠ k.longName) :=
  have facts := short_and_long_kind_names namespaceAndShortClass
  have byPages : ∀ a b, Addressing.pages a b ≠ .error .kindWithoutRole := fun _ b same => by
    cases b <;> cases same
  ⟨facts.1 none "A" "cls" .specific, facts.2.2.2.2.1 [] (by decide),
    facts.2.2.2.2.2 (by decide) .pages byPages (some "index") "A" none (.text "A")⟩

end Inventory

end NetApiDoc
