import NetApiDoc.Proofs.Inventory.KindNames
import NetApiDoc.Proofs.Reference.Operators
import Mathlib.Data.String.Basic

set_option autoImplicit false

namespace NetApiDoc

open NetApiDoc.Text

namespace Inventory

def letterOf (name : String) : String :=
  match lastPart name.toList with
  | c :: _ => lowerText (String.singleton c)
  | [] => ""

structure Filed (names : List (String × Entry)) (groups : List (String × List IndexLine)) :
    Prop where
  nodup : (groups.map (·.1)).Nodup
  lines : ∀ g ∈ groups,
    g.2 = (names.filter fun p => letterOf p.1 == g.1).map fun p => namespaceLine p.1
  covers : ∀ p ∈ names, letterOf p.1 ∈ groups.map (·.1)
  all : (groups.flatMap (·.2)).Perm (names.map fun p => namespaceLine p.1)

theorem filed_nil : Filed [] [] :=
  ⟨List.nodup_nil, fun _ mem => (nomatch mem), fun _ mem => (nomatch mem), List.Perm.refl _⟩

def appendUnder (letter : String) (line : IndexLine) (g : String × List IndexLine) :
    String × List IndexLine :=
  if g.1 == letter then (g.1, g.2 ++ [line]) else g

@[simp] theorem appendUnder_fst (letter : String) (line : IndexLine)
    (g : String × List IndexLine) : (appendUnder letter line g).1 = g.1 := by
  unfold appendUnder
  by_cases same : g.1 == letter
  · rw [if_pos same]
  · rw [if_neg same]

theorem map_appendUnder_of_not_mem {letter : String} {line : IndexLine}
    {groups : List (String × List IndexLine)} (absent : letter ∉ groups.map (·.1)) :
    groups.map (appendUnder letter line) = groups := by
  have unchanged : ∀ g ∈ groups, appendUnder letter line g = id g := by
    intro g mem
    have differ : (g.1 == letter) = false :=
      beq_eq_false_iff_ne.2 fun same => absent (List.mem_map.2 ⟨g, mem, same⟩)
    simp [appendUnder, differ]
  exact (List.map_congr_left unchanged).trans (List.map_id groups)

theorem flatMap_appendUnder {letter : String} {line : IndexLine} :
    ∀ {groups : List (String × List IndexLine)}, (groups.map (·.1)).Nodup →
      letter ∈ groups.map (·.1) →
      ((groups.map (appendUnder letter line)).flatMap (·.2)).Perm
        (groups.flatMap (·.2) ++ [line])
  | [], _, present => nomatch present
  | g :: rest, nodup, present => by
    rw [List.map_cons, List.nodup_cons] at nodup
    by_cases same : g.1 = letter
    · -- the group of the letter is the first; the others do not have it
      have others : rest.map (appendUnder letter line) = rest :=
        map_appendUnder_of_not_mem (same ▸ nodup.1)
      simp only [List.map_cons, List.flatMap_cons, others, appendUnder, same, beq_self_eq_true,
        if_true, List.append_assoc]
      exact List.Perm.append_left g.2 List.perm_append_comm
    · have later : letter ∈ rest.map (·.1) := by
        rcases List.mem_cons.1 present with first | later
        · exact absurd first.symm same
        · exact later
      have differ : (g.1 == letter) = false := beq_eq_false_iff_ne.2 same
      simp only [List.map_cons, List.flatMap_cons, appendUnder, differ, Bool.false_eq_true,
        if_false, List.append_assoc]
      exact List.Perm.append_left g.2 (flatMap_appendUnder nodup.2 later)

theorem any_letter_iff (groups : List (String × List IndexLine)) (letter : String) :
    groups.any (·.1 == letter) = true ↔ letter ∈ groups.map (·.1) := by
  simp only [List.any_eq_true, beq_iff_eq, List.mem_map]

section Filing

variable {names : List (String × Entry)} {groups : List (String × List IndexLine)}

theorem filed_of_used (filed : Filed names groups) (p : String × Entry)
    (present : letterOf p.1 ∈ groups.map (·.1)) :
    Filed (names ++ [p]) (groups.map (appendUnder (letterOf p.1) (namespaceLine p.1))) := by
  have keys : (groups.map (appendUnder (letterOf p.1) (namespaceLine p.1))).map (·.1) =
      groups.map (·.1) := by
    simp [Function.comp_def]
  refine ⟨keys ▸ filed.nodup, fun g' mem => ?_, fun q mem => ?_, ?_⟩
  · obtain ⟨g, old, rfl⟩ := List.mem_map.1 mem
    rw [appendUnder_fst, List.filter_append, List.map_append]
    -- only the group of the new name's letter grows
    by_cases same : g.1 = letterOf p.1
    · simp [appendUnder, same, filed.lines g old]
    · have differ : (g.1 == letterOf p.1) = false := beq_eq_false_iff_ne.2 same
      have notHere : (letterOf p.1 == g.1) = false := beq_eq_false_iff_ne.2 (Ne.symm same)
      simp [appendUnder, differ, notHere, filed.lines g old]
  · rw [keys]
    rcases List.mem_append.1 mem with old | new
    · exact filed.covers q old
    · rw [List.mem_singleton.1 new]
      exact present
  · rw [List.map_append]
    exact (flatMap_appendUnder filed.nodup present).trans (filed.all.append_right _)

theorem filed_of_unused (filed : Filed names groups) (p : String × Entry)
    (absent : letterOf p.1 ∉ groups.map (·.1)) :
    Filed (names ++ [p]) (groups ++ [(letterOf p.1, [namespaceLine p.1])]) := by
  refine ⟨?_, fun g mem => ?_, fun q mem => ?_, ?_⟩
  · rw [List.map_append, List.nodup_append]
    refine ⟨filed.nodup, by simp, fun a old b new same => ?_⟩
    rw [List.map_singleton, List.mem_singleton] at new
    have letter : b = letterOf p.1 := new
    exact absent (letter ▸ same ▸ old)
  · rcases List.mem_append.1 mem with old | new
    · -- an older letter: the new name is not under it
      have differ : (letterOf p.1 == g.1) = false := beq_eq_false_iff_ne.2 fun same =>
        absent (same ▸ List.mem_map.2 ⟨g, old, rfl⟩)
      simp [List.filter_append, differ, filed.lines g old]
    · -- the new letter: no earlier name is under it
      rw [List.mem_singleton.1 new]
      have none : (names.filter fun q => letterOf q.1 == letterOf p.1) = [] := by
        rw [List.filter_eq_nil_iff]
        intro q mem same
        exact absent ((beq_iff_eq.1 same) ▸ filed.covers q mem)
      simp [List.filter_append, none]
  · rcases List.mem_append.1 mem with old | new
    · exact List.map_append ▸ List.mem_append_left _ (filed.covers q old)
    · rw [List.mem_singleton.1 new]
      simp
  · simpa using filed.all.append_right [namespaceLine p.1]

theorem filed_fileUnder (filed : Filed names groups) (p : String × Entry) :
    Filed (names ++ [p]) (fileUnder groups (letterOf p.1) (namespaceLine p.1)) := by
  unfold fileUnder
  by_cases used : groups.any (·.1 == letterOf p.1)
  · rw [if_pos used]
    exact filed_of_used filed p ((any_letter_iff groups _).1 used)
  · rw [if_neg used]
    exact filed_of_unused filed p fun present => used ((any_letter_iff groups _).2 present)

end Filing

def fileAll (groups : List (String × List IndexLine)) (names : List (String × Entry)) :
    List (String × List IndexLine) :=
  names.foldl (fun groups p => fileUnder groups (letterOf p.1) (namespaceLine p.1)) groups

theorem filed_fileAll {names : List (String × Entry)} {groups : List (String × List IndexLine)}
    (filed : Filed names groups) (more : List (String × Entry)) :
    Filed (names ++ more) (fileAll groups more) := by
  induction more generalizing names groups with
  | nil => simpa [fileAll] using filed
  | cons p more ih =>
    have next := ih (filed_fileUnder filed p)
    rw [List.append_assoc, List.singleton_append] at next
    exact next

/-! ### Letters -/

theorem lastPart_eq_nil_iff (s : List Char) :
    lastPart s = [] ↔ s = [] ∨ s.getLast? = some '.' := by
  rcases Reference.lastPart_after_last_dot s with ⟨_, whole⟩ | ⟨front, split, clear⟩
  · rw [whole]
    constructor
    · exact .inl
    · rintro (empty | dot)
      · exact empty
      · exact absurd (List.mem_of_getLast? dot) (by assumption)
  · constructor
    · intro empty
      rw [empty] at split
      exact .inr (by simp [split])
    · rintro (empty | dot)
      · rw [empty] at split
        exact absurd split (by simp)
      · cases last : lastPart s with
        | nil => rfl
        | cons c rest =>
          -- the last character of the name is that of its last part, which holds no dot
          rw [split, last, List.getLast?_append_of_ne_nil _ (by simp),
            List.getLast?_cons_cons] at dot
          have inPart : '.' ∈ lastPart s := last ▸ List.mem_of_getLast? dot
          exact absurd inPart clear

theorem indexLetter_eq_letterOf {name : String} (nonempty : lastPart name.toList ≠ []) :
    indexLetter name = .ok (letterOf name) := by
  unfold indexLetter letterOf
  cases last : lastPart name.toList with
  | nil => exact absurd last nonempty
  | cons c rest => rfl

theorem indexLetter_of_empty {name : String} (empty : lastPart name.toList = []) :
    indexLetter name = .error .emptyLastPart := by
  simp [indexLetter, empty]

/-! ### Keys and the order by document -/

def docOrderKey (p : String × Entry) : String := lowerText (p.2.doc.getD "")

def byDocument (entries : List (String × Entry)) : List (String × Entry) :=
  entries.mergeSort fun a b => Domain.textLe (docOrderKey a) (docOrderKey b)

def IndexOrder (entries : List (String × Entry)) (a b : String × Entry) : Prop :=
  docOrderKey a < docOrderKey b ∨ docOrderKey a = docOrderKey b ∧ [a, b].Sublist entries

theorem textLe_iff (a b : String) : Domain.textLe a b = true ↔ a ≤ b := by
  unfold Domain.textLe
  rw [bne_iff_ne, ne_eq, compare_gt_iff_gt, not_lt]

theorem textLe_onKey_trans {α : Type} (key : α → String) (a b c : α) :
    Domain.textLe (key a) (key b) → Domain.textLe (key b) (key c) →
      Domain.textLe (key a) (key c) := by
  simp only [textLe_iff]
  exact le_trans

theorem textLe_onKey_total {α : Type} (key : α → String) (a b : α) :
    (Domain.textLe (key a) (key b) || Domain.textLe (key b) (key a)) = true := by
  simp only [Bool.or_eq_true, textLe_iff]
  exact le_total _ _

section Sorting

variable (entries : List (String × Entry))

theorem byDocument_perm : (byDocument entries).Perm entries := List.mergeSort_perm _ _

theorem byDocument_filter_key (key : String) :
    (byDocument entries).filter (docOrderKey · == key) =
      entries.filter (docOrderKey · == key) := by
  let same := entries.filter (docOrderKey · == key)
  have keyed : ∀ p ∈ same, docOrderKey p = key := fun p mem =>
    beq_iff_eq.1 (List.mem_filter.1 mem).2
  have sorted : same.Pairwise fun a b => Domain.textLe (docOrderKey a) (docOrderKey b) :=
    List.pairwise_of_forall_mem_list fun a memA b memB => by
      rw [keyed a memA, keyed b memB, textLe_iff]
  have kept : same.Sublist (byDocument entries) :=
    List.sublist_mergeSort (textLe_onKey_trans docOrderKey) (textLe_onKey_total docOrderKey) sorted
      List.filter_sublist
  have inFilter : same.Sublist ((byDocument entries).filter (docOrderKey · == key)) := by
    have filtered := kept.filter (docOrderKey · == key)
    rwa [List.filter_eq_self.2 fun p mem => beq_iff_eq.2 (keyed p mem)] at filtered
  have lengths : ((byDocument entries).filter (docOrderKey · == key)).length = same.length :=
    ((byDocument_perm entries).filter _).length_eq
  exact (inFilter.eq_of_length lengths.symm).symm

theorem byDocument_pairwise :
    (byDocument entries).Pairwise (IndexOrder entries) := by
  have sorted : (byDocument entries).Pairwise
      fun a b => Domain.textLe (docOrderKey a) (docOrderKey b) :=
    List.pairwise_mergeSort (textLe_onKey_trans docOrderKey) (textLe_onKey_total docOrderKey)
      entries
  rw [List.pairwise_iff_forall_sublist] at sorted ⊢
  intro a b pair
  have le : docOrderKey a ≤ docOrderKey b := (textLe_iff _ _).1 (sorted pair)
  rcases lt_or_eq_of_le le with lt | same
  · exact .inl lt
  · -- equal keys: the pair is among the entries of that key, which sorting leaves in order
    refine .inr ⟨same, ?_⟩
    have inKey :
        [a, b].Sublist ((byDocument entries).filter (docOrderKey · == docOrderKey a)) := by
      have filtered := pair.filter (docOrderKey · == docOrderKey a)
      rwa [List.filter_eq_self.2 (by simp [same])] at filtered
    rw [byDocument_filter_key] at inKey
    exact inKey.trans List.filter_sublist

end Sorting

/-! ### The index, stage by stage -/

def IndexListed (docs : List String) (e : Entry) : Prop :=
  e.kind = some "namespace" ∧ (docs = [] ∨ ∃ d ∈ docs, e.doc = some d)

def listedIn (docs : List String) (e : Entry) : Bool :=
  (docs.isEmpty || docs.any (some · == e.doc)) && e.kind == some "namespace"

theorem listedIn_iff (docs : List String) (e : Entry) :
    listedIn docs e = true ↔ IndexListed docs e := by
  unfold listedIn IndexListed
  simp only [Bool.and_eq_true, Bool.or_eq_true, List.isEmpty_iff, List.any_eq_true, beq_iff_eq]
  constructor
  · rintro ⟨chosen, kind⟩
    exact ⟨kind, chosen.imp id fun ⟨d, mem, doc⟩ => ⟨d, mem, doc.symm⟩⟩
  · rintro ⟨kind, chosen⟩
    exact ⟨chosen.imp id fun ⟨d, mem, doc⟩ => ⟨d, mem, doc.symm⟩, kind⟩

theorem indexKeyed_of_documented :
    ∀ {entries : List (String × Entry)}, (∀ p ∈ entries, ∃ d, p.2.doc = some d) →
      indexKeyed entries = .ok (entries.map fun p => (docOrderKey p, p))
  | [], _ => rfl
  | p :: rest, documented => by
    obtain ⟨d, doc⟩ := documented p List.mem_cons_self
    have first : docKey p.2 = .ok (docOrderKey p) := by simp [docKey, docOrderKey, doc]
    have later := indexKeyed_of_documented fun q mem => documented q (List.mem_cons_of_mem p mem)
    unfold indexKeyed at later ⊢
    simp only [List.mapM_cons, first, later]
    rfl

theorem indexKeyed_of_undocumented :
    ∀ {entries : List (String × Entry)}, (∃ p ∈ entries, p.2.doc = none) →
      indexKeyed entries = .error .missingDocumentName
  | [], ⟨_, mem, _⟩ => nomatch mem
  | p :: rest, ⟨q, mem, missing⟩ => by
    cases doc : p.2.doc with
    | none =>
      have first : docKey p.2 = .error .missingDocumentName := by simp [docKey, doc]
      unfold indexKeyed
      simp only [List.mapM_cons, first]
      rfl
    | some d =>
      have first : docKey p.2 = .ok (lowerText d) := by simp [docKey, doc]
      have later : q ∈ rest := by
        rcases List.mem_cons.1 mem with same | later
        · rw [same, doc] at missing
          exact nomatch missing
        · exact later
      have stops := indexKeyed_of_undocumented ⟨q, later, missing⟩
      unfold indexKeyed at stops ⊢
      simp only [List.mapM_cons, first, stops]
      rfl

theorem indexChosen_keyed (docs : List String) (entries : List (String × Entry)) :
    indexChosen docs (entries.map fun p => (docOrderKey p, p)) =
      ((byDocument entries).filter fun p => listedIn docs p.2).map fun p => (docOrderKey p, p) := by
  unfold indexChosen byDocument
  -- sorting the keyed entries by key is sorting the entries by their keys
  have sorted : (entries.map fun p => (docOrderKey p, p)).mergeSort
        (fun a b => Domain.textLe a.1 b.1) =
      (entries.mergeSort fun a b => Domain.textLe (docOrderKey a) (docOrderKey b)).map
        fun p => (docOrderKey p, p) :=
    (List.map_mergeSort fun _ _ _ _ => by rfl).symm
  rw [sorted, List.filter_map]
  rfl

def fileName (groups : List (String × List IndexLine)) (p : String × Entry) :
    Except Error (List (String × List IndexLine)) := do
  return fileUnder groups (← indexLetter p.1) (namespaceLine p.1)

theorem fileName_of_lettered (groups : List (String × List IndexLine)) {p : String × Entry}
    (lettered : lastPart p.1.toList ≠ []) :
    fileName groups p = .ok (fileUnder groups (letterOf p.1) (namespaceLine p.1)) := by
  simp [fileName, indexLetter_eq_letterOf lettered]

theorem fileName_of_empty (groups : List (String × List IndexLine)) {p : String × Entry}
    (empty : lastPart p.1.toList = []) : fileName groups p = .error .emptyLastPart := by
  simp [fileName, indexLetter_of_empty empty]

theorem indexGroups_keyed (names : List (String × Entry)) :
    indexGroups (names.map fun p => (docOrderKey p, p)) = names.foldlM fileName [] := by
  unfold indexGroups
  rw [List.foldlM_map]
  rfl

theorem foldlM_fileName_ok :
    ∀ {names : List (String × Entry)} (groups : List (String × List IndexLine)),
      (∀ p ∈ names, lastPart p.1.toList ≠ []) →
        names.foldlM fileName groups = .ok (fileAll groups names)
  | [], _, _ => rfl
  | p :: rest, groups, lettered => by
    rw [List.foldlM_cons, fileName_of_lettered groups (lettered p List.mem_cons_self)]
    exact foldlM_fileName_ok _ fun q mem => lettered q (List.mem_cons_of_mem p mem)

theorem foldlM_fileName_error :
    ∀ {names : List (String × Entry)} (groups : List (String × List IndexLine)),
      (∃ p ∈ names, lastPart p.1.toList = []) →
        names.foldlM fileName groups = .error .emptyLastPart
  | [], _, ⟨_, mem, _⟩ => nomatch mem
  | p :: rest, groups, ⟨q, mem, empty⟩ => by
    rw [List.foldlM_cons]
    by_cases stops : lastPart p.1.toList = []
    · rw [fileName_of_empty groups stops]
      rfl
    · have later : q ∈ rest := by
        rcases List.mem_cons.1 mem with same | later
        · exact absurd (same ▸ empty) stops
        · exact later
      rw [fileName_of_lettered groups stops]
      exact foldlM_fileName_error _ ⟨q, later, empty⟩

theorem moduleIndex_of_documented {inv : Inventory}
    (documented : ∀ p ∈ inv.entries, ∃ d, p.2.doc = some d) (docs : List String) :
    inv.moduleIndex docs =
      (fun groups => groups.mergeSort fun a b => Domain.textLe a.1 b.1) <$>
        ((byDocument inv.entries).filter fun p => listedIn docs p.2).foldlM fileName [] := by
  rw [moduleIndex_eq, indexKeyed_of_documented documented]
  show (do
      let groups ← indexGroups (indexChosen docs (inv.entries.map fun p => (docOrderKey p, p)))
      return groups.mergeSort fun a b => Domain.textLe a.1 b.1) = _
  rw [indexChosen_keyed, indexGroups_keyed]
  rfl

/-! ### The whole index -/

def chosenByDocument (inv : Inventory) (docs : List String) : List (String × Entry) :=
  (byDocument inv.entries).filter fun p => listedIn docs p.2

theorem mem_chosenByDocument {inv : Inventory} {docs : List String} {p : String × Entry} :
    p ∈ chosenByDocument inv docs ↔ p ∈ inv.entries ∧ IndexListed docs p.2 := by
  simp [chosenByDocument, byDocument, listedIn_iff]

theorem letters_increasing {groups : List (String × List IndexLine)}
    (nodup : (groups.map (·.1)).Nodup) :
    ((groups.mergeSort fun a b => Domain.textLe a.1 b.1).map (·.1)).Pairwise (· < ·) := by
  have sorted : (groups.mergeSort fun a b => Domain.textLe a.1 b.1).Pairwise
      fun a b => Domain.textLe a.1 b.1 :=
    List.pairwise_mergeSort (textLe_onKey_trans Prod.fst) (textLe_onKey_total Prod.fst) groups
  have distinct := ((List.mergeSort_perm groups fun a b => Domain.textLe a.1 b.1).map
    (·.1)).nodup_iff.2 nodup
  rw [List.Nodup, List.pairwise_map] at distinct
  rw [List.pairwise_map]
  exact (sorted.and distinct).imp fun ⟨le, ne⟩ => lt_of_le_of_ne ((textLe_iff _ _).1 le) ne

def EmptyLastPart (name : String) : Prop :=
  name.toList = [] ∨ name.toList.getLast? = some '.'

/-- What the module index holds: its letters strictly increasing; under each letter the lines
of exactly the listed entries filed under it, in the order of the index; and the line of every
listed entry exactly once. -/
structure IndexesExactly (inv : Inventory) (docs : List String)
    (groups : List (String × List IndexLine)) : Prop where
  increasing : (groups.map (·.1)).Pairwise (· < ·)
  grouped : ∀ g ∈ groups, ∃ objs : List (String × Entry),
    g.2 = objs.map (fun p => namespaceLine p.1) ∧
    (∀ p, p ∈ objs ↔ p ∈ inv.entries ∧ IndexListed docs p.2 ∧ letterOf p.1 = g.1) ∧
    objs.Pairwise (IndexOrder inv.entries)
  once : ∀ p ∈ inv.entries, IndexListed docs p.2 →
    (groups.flatMap (·.2)).count (namespaceLine p.1) = 1

theorem indexesExactly_of_filed {inv : Inventory} {docs : List String}
    {groups : List (String × List IndexLine)} (filed : Filed (chosenByDocument inv docs) groups) :
    IndexesExactly inv docs (groups.mergeSort fun a b => Domain.textLe a.1 b.1) where
  increasing := letters_increasing filed.nodup
  grouped := by
    intro g mem
    have old : g ∈ groups := List.mem_mergeSort.1 mem
    refine ⟨(chosenByDocument inv docs).filter fun p => letterOf p.1 == g.1, filed.lines g old,
      fun p => ?_, ?_⟩
    · simp [mem_chosenByDocument, and_assoc]
    · exact ((byDocument_pairwise inv.entries).filter _).filter _
  once := by
    intro p mem listed
    -- sorting the letters moves whole groups, so the lines are those of the chosen entries
    have lines := ((List.mergeSort_perm groups fun a b => Domain.textLe a.1 b.1).flatMap_right
      (·.2)).trans filed.all
    have names : ((chosenByDocument inv docs).map Prod.fst).Nodup :=
      (((byDocument_perm inv.entries).map Prod.fst).nodup_iff.2 inv.nodup).sublist
        (List.filter_sublist.map Prod.fst)
    -- a line names its entry, and the names are distinct
    have distinct : ((chosenByDocument inv docs).map fun p => namespaceLine p.1).Nodup := by
      rw [List.Nodup, List.pairwise_map]
      exact (List.pairwise_map.1 names).imp fun differ same => differ (congrArg IndexLine.name same)
    have present : namespaceLine p.1 ∈ (chosenByDocument inv docs).map fun p => namespaceLine p.1 :=
      List.mem_map.2 ⟨p, mem_chosenByDocument.2 ⟨mem, listed⟩, rfl⟩
    rw [lines.count_eq, distinct.count, if_pos present]

/-- The module index, in full: it stops exactly when a listed entry has an empty last part, and
otherwise holds what `IndexesExactly` says. -/
structure FilesNamespaces (inv : Inventory) (docs : List String) : Prop where
  stops : inv.moduleIndex docs = .error .emptyLastPart ↔
    ∃ p ∈ inv.entries, IndexListed docs p.2 ∧ EmptyLastPart p.1
  files : (∀ p ∈ inv.entries, IndexListed docs p.2 → ¬EmptyLastPart p.1) →
    ∃ groups, inv.moduleIndex docs = .ok groups ∧ IndexesExactly inv docs groups

theorem moduleIndex_of_undocumented {inv : Inventory}
    (missing : ∃ p ∈ inv.entries, p.2.doc = none) (docs : List String) :
    inv.moduleIndex docs = .error .missingDocumentName := by
  rw [moduleIndex_eq, indexKeyed_of_undocumented missing]
  rfl

/-- The module index lists each chosen namespace exactly once, under the lower-cased first
letter of its last dotted part, with letters strictly increasing and, under a letter, the
entries in a stable sort by document; it stops exactly when a chosen namespace has an empty
last part. -/
theorem moduleIndex_files_each_namespace_once {inv : Inventory}
    (documented : ∀ p ∈ inv.entries, ∃ d, p.2.doc = some d) (docs : List String) :
    FilesNamespaces inv docs := by
  have filing := moduleIndex_of_documented documented docs
  rw [← chosenByDocument] at filing
  by_cases stops : ∃ p ∈ inv.entries, IndexListed docs p.2 ∧ EmptyLastPart p.1
  · -- a chosen entry without a letter stops the filing
    obtain ⟨p, mem, listed, empty⟩ := stops
    have fails : (chosenByDocument inv docs).foldlM fileName [] = .error .emptyLastPart :=
      foldlM_fileName_error []
        ⟨p, mem_chosenByDocument.2 ⟨mem, listed⟩, (lastPart_eq_nil_iff _).2 empty⟩
    rw [fails] at filing
    exact ⟨iff_of_true filing ⟨p, mem, listed, empty⟩,
      fun clear => absurd empty (clear p mem listed)⟩
  · have lettered : ∀ p ∈ chosenByDocument inv docs, lastPart p.1.toList ≠ [] := by
      intro p mem empty
      obtain ⟨old, listed⟩ := mem_chosenByDocument.1 mem
      exact stops ⟨p, old, listed, (lastPart_eq_nil_iff _).1 empty⟩
    rw [foldlM_fileName_ok [] lettered] at filing
    have filed := filed_fileAll filed_nil (chosenByDocument inv docs)
    rw [List.nil_append] at filed
    exact ⟨iff_of_false (fun fails => nomatch filing.symm.trans fails) stops,
      fun _ => ⟨_, filing, indexesExactly_of_filed filed⟩⟩

def namespacesAcrossLetters : Inventory :=
  ⟨[("Sys.beta", ⟨some "Two", some "namespace"⟩),
    ("Sys.Alpha", ⟨some "one", some "namespace"⟩),
    ("Sys.Beta.C", ⟨some "one", some "class"⟩)], by simp⟩

theorem moduleIndex_files_each_namespace_once_across_letters :
    (∀ p ∈ namespacesAcrossLetters.entries, ∃ d, p.2.doc = some d) ∧
      FilesNamespaces namespacesAcrossLetters [] :=
  have documented : ∀ p ∈ namespacesAcrossLetters.entries, ∃ d, p.2.doc = some d := by
    simp [namespacesAcrossLetters]
  ⟨documented, moduleIndex_files_each_namespace_once documented []⟩

end Inventory

end NetApiDoc
