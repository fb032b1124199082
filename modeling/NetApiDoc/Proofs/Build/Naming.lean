import NetApiDoc.Proofs.Build.Anchors
import NetApiDoc.Proofs.Describe.IndexText

set_option autoImplicit false

namespace NetApiDoc.Build

open NetApiDoc.Markup NetApiDoc.Text

variable {α β : Type}

/-- The full name of a line read as `s` under the prefix `c` of the containers around it: the
prefix stands in for the qualifier written in the line. -/
def nameUnder (c : Option String) (s : Signature) : String :=
  match c with
  | some p => p ++ "." ++ s.member
  | none => s.fullName

theorem fullName_under (c : Option String) (s : Signature) :
    ({ s with qualifier := c.or s.qualifier } : Signature).fullName = nameUnder c s := by
  cases c <;> rfl

def linesNamed (k : Kind) (c : Option String) (lines : List String) : List String :=
  lines.filterMap fun line =>
    (Signature.read k.shape (String.ofList (stripBlanks line.toList))).toOption.map (nameUnder c)

theorem describedNames_eq_linesNamed (k : Kind) (flags : List String) (c : Option String)
    (lines : List String) : describedNames k flags c lines = linesNamed k c lines := by
  unfold describedNames linesNamed
  apply congrArg (fun f => List.filterMap f lines)
  funext line
  cases described : Describe.describe k flags c line with
  | error e =>
    have unread := describe_toBool k flags c line
    rw [described] at unread
    cases read : Signature.read k.shape (String.ofList (stripBlanks line.toList)) with
    | error _ => rfl
    | ok s => simp [readsAs, read, Except.toBool] at unread
  | ok d =>
    obtain ⟨s, read, signature, -⟩ := Describe.describe_ok described
    simp [read, signature, Except.toOption, fullName_under]

/-- The prefix a directive's content is read under: for a container whose lines take a name,
the last of the distinct names they take; otherwise the prefix around the directive. -/
def contentPrefix (k : Kind) (c : Option String) (lines : List String) : Option String :=
  if k.isContainer then ((linesNamed k c lines).eraseDups.getLast?).or c else c

theorem contentNesting_current (k : Kind) (flags : List String) (m : Nesting)
    (lines : List String) :
    (contentNesting k flags m lines).current = contentPrefix k m.current lines := by
  unfold contentNesting contentPrefix
  rw [describedNames_eq_linesNamed]
  by_cases container : k.isContainer = true
  · rw [if_pos container, if_pos container]
    cases (linesNamed k m.current lines).eraseDups.getLast? <;> simp
  · rw [if_neg container, if_neg container]

def directiveNames (c : Option String) (name : String) (arguments : List String)
    (options : List (String × Option String)) (content : Option String → List String) :
    List String :=
  match directiveUse (lowerText name) with
  | some (.object k _) =>
    (if (options.map (·.1)).contains "noindex" then []
      else linesNamed k c (signatureLines (arguments.headD ""))) ++
      content (contentPrefix k c (signatureLines (arguments.headD "")))
  | _ => []

mutual
def blockNames (c : Option String) : Block → List String
  | .bulletList _ items => itemsNames c items
  | .fieldList fields => fieldsNames c fields
  | .definitionList items => fieldsNames c items
  | .quote blocks => blocksNames c blocks
  | .directive _ name arguments options blocks _ =>
    directiveNames c name arguments options fun c' => blocksNames c' blocks
  | .paragraph _ _ | .comment _ | .problem _ _ => []

def blocksNames (c : Option String) : List Block → List String
  | [] => []
  | b :: bs => blockNames c b ++ blocksNames c bs

def itemsNames (c : Option String) : List (List Block) → List String
  | [] => []
  | item :: items => blocksNames c item ++ itemsNames c items

def fieldsNames (c : Option String) : List (List Inline × Nat × List Block) → List String
  | [] => []
  | (_, _, body) :: fields => blocksNames c body ++ fieldsNames c fields
end

/-! ### Anchors and recorded names -/

namespace Inventory

theorem mem_names_insert {inv : Inventory} {name n : String} {e : Entry} :
    n ∈ (inv.insert name e).names ↔ n ∈ inv.names ∨ n = name := by
  unfold Inventory.insert
  split
  · rename_i known
    -- a known name keeps its place: the names stay as they were
    have same : (inv.entries.map fun p => if p.1 == name then (name, e) else p).map Prod.fst =
        inv.entries.map Prod.fst := by
      rw [List.map_map]
      apply List.map_congr_left
      intro p _
      by_cases hp : p.1 = name <;> simp [hp]
    have held : name ∈ inv.names := by
      obtain ⟨p, mem, hp⟩ := List.any_eq_true.1 known
      exact List.mem_map.2 ⟨p, mem, beq_iff_eq.1 hp⟩
    simp only [Inventory.names, same]
    constructor
    · exact Or.inl
    · rintro (old | rfl)
      · exact old
      · exact held
  · simp [Inventory.names]

end Inventory

theorem dash_not_mem_shortName (k : Kind) : '-' ∉ k.shortName.toList := by
  cases k <;> simp [Kind.shortName]

theorem eq_of_append_cons_eq {x : Char} : ∀ {a a' f f' : List Char}, x ∉ a → x ∉ a' →
    a ++ x :: f = a' ++ x :: f' → f = f'
  | [], [], _, _, _, _, same => (List.cons.inj same).2
  | [], _ :: _, _, _, _, notIn', same =>
    absurd (List.mem_cons.2 (Or.inl (List.cons.inj same).1)) notIn'
  | _ :: _, [], _, _, notIn, _, same =>
    absurd (List.mem_cons.2 (Or.inl (List.cons.inj same).1.symm)) notIn
  | b :: _, b' :: _, _, _, notIn, notIn', same =>
    eq_of_append_cons_eq (fun m => notIn (List.mem_cons_of_mem b m))
      (fun m => notIn' (List.mem_cons_of_mem b' m)) (List.cons.inj same).2

theorem anchorOf_inj {k k' : Kind} {full full' : String}
    (same : anchorOf k full = anchorOf k' full') : full = full' := by
  have lists := congrArg String.toList same
  simp only [anchorOf, String.toList_append] at lists
  have dash : "-".toList = ['-'] := rfl
  rw [dash, List.append_assoc, List.append_assoc, List.singleton_append,
    List.singleton_append] at lists
  exact String.toList_inj.1
    (eq_of_append_cons_eq (dash_not_mem_shortName k) (dash_not_mem_shortName k') lists)

def AnchorsRecorded (r : Reading) : Prop :=
  ∀ k full, anchorOf k full ∈ r.anchors → full ∈ r.inventory.names

theorem AnchorsRecorded.of_eq {r r' : Reading} (recorded : AnchorsRecorded r)
    (inv : r'.inventory = r.inventory) (anchors : r'.anchors = r.anchors) : AnchorsRecorded r' := by
  intro k full mem
  rw [inv]
  exact recorded k full (anchors ▸ mem)

theorem addTarget_records {k : Kind} {objtype : String} {line : Nat} {full : String}
    {r r' : Reading} {attrs : List (String × Value)} (recorded : AnchorsRecorded r)
    (h : addTarget k objtype line full r = .ok (attrs, r')) :
    AnchorsRecorded r' ∧ ∀ n, n ∈ r'.inventory.names ↔ n ∈ r.inventory.names ∨ n = full := by
  rcases addTarget_cases h with ⟨-, rfl, held⟩ | ⟨-, -, -, anchors, inv⟩
  · -- the anchor is there already, so the name was recorded with it
    have known := recorded k full (List.contains_iff_mem.1 held)
    refine ⟨recorded, fun n => ⟨Or.inl, ?_⟩⟩
    rintro (old | rfl)
    · exact old
    · exact known
  · rw [inv]
    refine ⟨fun k' full' mem => ?_, fun n => Inventory.mem_names_insert⟩
    rw [inv, Inventory.mem_names_insert]
    rw [anchors, List.mem_append, List.mem_singleton] at mem
    rcases mem with old | new
    · exact Or.inl (recorded k' full' old)
    · exact Or.inr (anchorOf_inj new)

/-! ### One signature line, then the lines of a directive -/

def NamesHeld (noindex : Bool) (acc : Signatures) (r : Reading) : Prop :=
  noindex = false → ∀ p ∈ acc.names, p.1 ∈ r.inventory.names

theorem linesNamed_cons (k : Kind) (c : Option String) (sig : String) (lines : List String) :
    linesNamed k c (sig :: lines) = linesNamed k c [sig] ++ linesNamed k c lines := by
  simp only [linesNamed, List.filterMap_cons, List.filterMap_nil]
  cases (Signature.read k.shape (String.ofList (stripBlanks sig.toList))).toOption.map
    (nameUnder c) <;> rfl

theorem describeSignature_records {k : Kind} {objtype : String} {line : Nat}
    {flags : List String} {noindex : Bool} {acc acc' : Signatures} {sig : String}
    {r r' : Reading} (recorded : AnchorsRecorded r) (held : NamesHeld noindex acc r)
    (h : describeSignature k objtype line flags noindex acc sig r = .ok (acc', r')) :
    AnchorsRecorded r' ∧ NamesHeld noindex acc' r' ∧ ∀ n, n ∈ r'.inventory.names ↔
      n ∈ r.inventory.names ∨ (noindex = false ∧ n ∈ linesNamed k r.nesting.current [sig]) := by
  simp only [describeSignature, reader_bind, reader_get] at h
  cases described : Describe.describe k flags r.nesting.current sig with
  | error e =>
    -- an unread line only warns, and takes no name
    rw [described] at h
    obtain ⟨u, r₁, warned, returned⟩ := reader_bind_ok h
    simp only [warn, reader_modify] at warned
    cases warned
    cases returned
    have unnamed : linesNamed k r.nesting.current [sig] = [] := by
      rw [← describedNames_eq_linesNamed k flags]
      simp [describedNames, described, Except.toOption]
    exact ⟨recorded, held, fun n => by simp [unnamed]⟩
  | ok d =>
    rw [described] at h
    dsimp only at h
    obtain ⟨s, read, signature, name⟩ := Describe.describe_ok described
    have named : linesNamed k r.nesting.current [sig] = [d.name.1] := by
      rw [name, signature, fullName_under]
      simp [linesNamed, read, Except.toOption]
    rw [named]
    split at h
    · -- a name described before in the directive is recorded already, unless out of the index
      rename_i skipped
      cases h
      refine ⟨recorded, fun indexed p mem => ?_, fun n => ?_⟩
      · have before : acc.names.contains d.name = true := by simpa [indexed] using skipped
        simp only [before, if_true] at mem
        exact held indexed p mem
      · by_cases indexed : noindex = false
        · have before : acc.names.contains d.name = true := by simpa [indexed] using skipped
          have known := held indexed d.name (List.contains_iff_mem.1 before)
          simp only [indexed, List.mem_singleton, true_and]
          exact ⟨Or.inl, fun found => found.elim id fun same => same ▸ known⟩
        · simp [indexed]
    · rename_i fresh
      obtain ⟨anchors, r₁, target, returned⟩ := reader_bind_ok h
      cases returned
      have indexed : noindex = false := by
        simpa using (Bool.or_eq_false_iff.1 (Bool.eq_false_iff.2 fresh)).2
      obtain ⟨recorded', names'⟩ := addTarget_records recorded target
      refine ⟨recorded', fun _ p mem => ?_, fun n => by simp [names', indexed]⟩
      rcases List.mem_append.1 mem with old | new
      · exact (names' _).2 (Or.inl (held indexed p old))
      · rw [List.mem_singleton.1 new]
        exact (names' _).2 (Or.inr rfl)

theorem describeSignatures_records {k : Kind} {objtype : String} {line : Nat}
    {flags : List String} {noindex : Bool} (lines : List String) {acc sigs : Signatures}
    {r r' : Reading} (recorded : AnchorsRecorded r) (held : NamesHeld noindex acc r)
    (h : lines.foldlM (describeSignature k objtype line flags noindex) acc r = .ok (sigs, r')) :
    AnchorsRecorded r' ∧ ∀ n, n ∈ r'.inventory.names ↔
      n ∈ r.inventory.names ∨ (noindex = false ∧ n ∈ linesNamed k r.nesting.current lines) := by
  -- one line at a time, each under the nesting the directive started with
  induction lines generalizing acc r with
  | nil =>
    cases h
    exact ⟨recorded, fun n => by simp [linesNamed]⟩
  | cons sig lines ih =>
    rw [List.foldlM_cons] at h
    obtain ⟨acc₁, r₁, first, rest⟩ := reader_bind_ok h
    obtain ⟨kept, -⟩ := describeSignature_run first
    obtain ⟨recorded₁, held₁, names₁⟩ := describeSignature_records recorded held first
    obtain ⟨recorded', names'⟩ := ih recorded₁ held₁ rest
    refine ⟨recorded', fun n => ?_⟩
    rw [names', names₁, kept, linesNamed_cons k _ sig lines, List.mem_append]
    by_cases indexed : noindex = false <;> simp [indexed, or_assoc]

/-! ### Directives and trees -/

def RecordsUnder (c : Option String) (x : Reader α) (names : List String) : Prop :=
  ∀ r a r', r.nesting.current = c → AnchorsRecorded r → x r = .ok (a, r') →
    AnchorsRecorded r' ∧ ∀ n, n ∈ r'.inventory.names ↔ n ∈ r.inventory.names ∨ n ∈ names

theorem Keeps.recordsUnder {x : Reader α} (keeps : Keeps x) (c : Option String) :
    RecordsUnder c x [] := by
  intro r a r' _ recorded h
  have same := keeps r a r' h
  simp only [Reading.naming, Prod.mk.injEq] at same
  exact ⟨recorded.of_eq same.2.1 same.2.2, fun n => by simp [same.2.1]⟩

theorem recordsUnder_bind {c : Option String} {x : Reader α} {f : α → Reader β}
    {ns ms : List String} (hx : RecordsUnder c x ns) (kept : Drops x 0)
    (hf : ∀ v, RecordsUnder c (f v) ms) : RecordsUnder c (x >>= f) (ns ++ ms) := by
  intro r b r' current recorded h
  obtain ⟨v, r₁, first, rest⟩ := reader_bind_ok h
  -- the first reader keeps the nesting, so the second starts under the same prefix
  have nesting : r₁.nesting = r.nesting := by simpa using kept r v r₁ first
  obtain ⟨recorded₁, names₁⟩ := hx r v r₁ current recorded first
  obtain ⟨recorded', names'⟩ := hf v r₁ b r' (nesting ▸ current) recorded₁ rest
  refine ⟨recorded', fun n => ?_⟩
  rw [names', names₁, List.mem_append, or_assoc]

theorem RecordsUnder.of_eq {c : Option String} {x : Reader α} {ns ms : List String}
    (h : RecordsUnder c x ns) (same : ns = ms) : RecordsUnder c x ms :=
  same ▸ h

theorem RecordsUnder.bind_pure {c : Option String} {x : Reader α} {ns : List String}
    (hx : RecordsUnder c x ns) (kept : Drops x 0) (f : α → β) :
    RecordsUnder c (x >>= fun v => pure (f v)) ns :=
  (recordsUnder_bind hx kept fun v => (keeps_pure (f v)).recordsUnder c).of_eq (List.append_nil ns)

theorem describeObject_records {k : Kind} {objtype : String} {line : Nat}
    {arguments : List String} {options : List (String × Option String)}
    {content : Reader (List Draft)} {c : Option String} {ns : List String}
    (inner : RecordsUnder (contentPrefix k c (signatureLines (arguments.headD ""))) content ns) :
    RecordsUnder c (describeObject k objtype line arguments options content)
      ((if (options.map (·.1)).contains "noindex" then []
        else linesNamed k c (signatureLines (arguments.headD ""))) ++ ns) := by
  intro r a r' current recorded h
  obtain ⟨sigs, r₀, r₁, body, r₂, described, start, inv₁, anchors₁, run, -, inv', anchors'⟩ :=
    describeObject_run h
  obtain ⟨recorded₀, names₀⟩ :=
    describeSignatures_records _ recorded (fun _ p mem => by simp at mem) described
  have under : r₁.nesting.current = contentPrefix k c (signatureLines (arguments.headD "")) := by
    rw [start, contentNesting_current, current]
  obtain ⟨recorded₂, names₂⟩ := inner r₁ body r₂ under (recorded₀.of_eq inv₁ anchors₁) run
  refine ⟨recorded₂.of_eq inv' anchors', fun n => ?_⟩
  rw [inv', names₂, inv₁, names₀, current, List.mem_append]
  simp [or_assoc]

theorem directiveDrafts_records (c : Option String) (line : Nat) (name : String)
    (arguments : List String) (options : List (String × Option String))
    {content : Reader (List Draft)} {inner : Option String → List String} (lines : List String)
    (records : ∀ k objtype, directiveUse (lowerText name) = some (.object k objtype) →
      ∀ c', RecordsUnder c' content (inner c')) :
    RecordsUnder c (directiveDrafts line name arguments options content lines)
      (directiveNames c name arguments options inner) := by
  unfold directiveDrafts directiveNames
  cases used : directiveUse (lowerText name) with
  | none => exact (keeps_pure _).recordsUnder c
  | some use =>
    cases use with
    | object k objtype => exact describeObject_records (records k objtype used _)
    | toctree => exact (tableDrafts_keeps line options lines).recordsUnder c

mutual
theorem blockDrafts_records :
    ∀ (b : Block) (c : Option String), blockStrays b = 0 → RecordsUnder c (blockDrafts b) (blockNames c b)
  | .paragraph line content, c, _ => by
    rw [blockDrafts, blockNames]
    exact (keeps_bind (inlinesDrafts_keeps line content) fun _ => keeps_pure _).recordsUnder c
  | .bulletList bullet items, c, clean => by
    rw [blockStrays] at clean
    rw [blockDrafts, blockNames]
    exact (itemsDrafts_records items c clean).bind_pure ((itemsDrafts_drops items).of_eq clean) _
  | .fieldList fields, c, clean => by
    rw [blockStrays] at clean
    rw [blockDrafts, blockNames]
    exact (fieldsDrafts_records fields c clean).bind_pure ((fieldsDrafts_drops fields).of_eq clean) _
  | .definitionList items, c, clean => by
    rw [blockStrays] at clean
    rw [blockDrafts, blockNames]
    exact (definitionsDrafts_records items c clean).bind_pure
      ((definitionsDrafts_drops items).of_eq clean) _
  | .quote blocks, c, clean => by
    rw [blockStrays] at clean
    rw [blockDrafts, blockNames]
    exact (blocksDrafts_records blocks c clean).bind_pure ((blocksDrafts_drops blocks).of_eq clean) _
  | .comment text, c, _ => by
    rw [blockDrafts, blockNames]
    exact (keeps_pure _).recordsUnder c
  | .directive line name arguments options blocks lines, c, clean => by
    rw [blockStrays] at clean
    rw [blockDrafts, blockNames]
    refine directiveDrafts_records c line name arguments options lines fun k objtype used c' => ?_
    -- an object directive that leaves no stray name reads content that leaves none
    simp only [directiveStrays, used] at clean
    exact blocksDrafts_records blocks c' (Nat.add_eq_zero_iff.1 clean).1
  | .problem line message, c, _ => by
    rw [blockDrafts, blockNames]
    exact (keeps_bind (warn_keeps _ _) fun _ => keeps_pure _).recordsUnder c

theorem blocksDrafts_records :
    ∀ (bs : List Block) (c : Option String), blocksStrays bs = 0 →
      RecordsUnder c (blocksDrafts bs) (blocksNames c bs)
  | [], c, _ => by
    rw [blocksDrafts, blocksNames]
    exact (keeps_pure _).recordsUnder c
  | b :: bs, c, clean => by
    rw [blocksStrays, Nat.add_eq_zero_iff] at clean
    rw [blocksDrafts, blocksNames]
    exact recordsUnder_bind (blockDrafts_records b c clean.1)
      ((blockDrafts_drops b).of_eq clean.1) fun _ =>
        (blocksDrafts_records bs c clean.2).bind_pure ((blocksDrafts_drops bs).of_eq clean.2) _

theorem itemsDrafts_records :
    ∀ (items : List (List Block)) (c : Option String), itemsStrays items = 0 →
      RecordsUnder c (itemsDrafts items) (itemsNames c items)
  | [], c, _ => by
    rw [itemsDrafts, itemsNames]
    exact (keeps_pure _).recordsUnder c
  | item :: items, c, clean => by
    rw [itemsStrays, Nat.add_eq_zero_iff] at clean
    rw [itemsDrafts, itemsNames]
    exact recordsUnder_bind (blocksDrafts_records item c clean.1)
      ((blocksDrafts_drops item).of_eq clean.1) fun _ =>
        (itemsDrafts_records items c clean.2).bind_pure ((itemsDrafts_drops items).of_eq clean.2) _

theorem fieldsDrafts_records :
    ∀ (fields : List (List Inline × Nat × List Block)) (c : Option String),
      fieldsStrays fields = 0 → RecordsUnder c (fieldsDrafts fields) (fieldsNames c fields)
  | [], c, _ => by
    rw [fieldsDrafts, fieldsNames]
    exact (keeps_pure _).recordsUnder c
  | (name, line, body) :: fields, c, clean => by
    rw [fieldsStrays, Nat.add_eq_zero_iff] at clean
    rw [fieldsDrafts, fieldsNames]
    -- the field's name takes no object, so its body's names come first
    exact (recordsUnder_bind ((inlinesDrafts_keeps line name).recordsUnder c)
      (inlinesDrafts_keeps line name).drops fun _ =>
        recordsUnder_bind (blocksDrafts_records body c clean.1)
          ((blocksDrafts_drops body).of_eq clean.1) fun _ =>
            (fieldsDrafts_records fields c clean.2).bind_pure
              ((fieldsDrafts_drops fields).of_eq clean.2) _).of_eq (List.nil_append _)

theorem definitionsDrafts_records :
    ∀ (items : List (List Inline × Nat × List Block)) (c : Option String),
      fieldsStrays items = 0 → RecordsUnder c (definitionsDrafts items) (fieldsNames c items)
  | [], c, _ => by
    rw [definitionsDrafts, fieldsNames]
    exact (keeps_pure _).recordsUnder c
  | (term, line, body) :: items, c, clean => by
    rw [fieldsStrays, Nat.add_eq_zero_iff] at clean
    rw [definitionsDrafts, fieldsNames]
    exact (recordsUnder_bind ((inlinesDrafts_keeps line term).recordsUnder c)
      (inlinesDrafts_keeps line term).drops fun _ =>
        recordsUnder_bind (blocksDrafts_records body c clean.1)
          ((blocksDrafts_drops body).of_eq clean.1) fun _ =>
            (definitionsDrafts_records items c clean.2).bind_pure
              ((definitionsDrafts_drops items).of_eq clean.2) _).of_eq (List.nil_append _)
end

/-! ### Lines, containers and documents -/

theorem describeSignature_named {k : Kind} {objtype : String} {line : Nat} {flags : List String}
    {noindex : Bool} {acc acc' : Signatures} {sig : String} {r r' : Reading} {s : Signature}
    (h : describeSignature k objtype line flags noindex acc sig r = .ok (acc', r'))
    (read : Signature.read k.shape (String.ofList (stripBlanks sig.toList)) = .ok s) :
    ∃ attrs children, acc'.nodes = acc.nodes ++ [.element "desc_signature" attrs children] ∧
      ("fullname", Value.str (nameUnder r.nesting.current s)) ∈ attrs ∧
      ∀ n ∈ r'.inventory.names, n ∈ r.inventory.names ∨ n = nameUnder r.nesting.current s := by
  simp only [describeSignature, reader_bind, reader_get] at h
  cases described : Describe.describe k flags r.nesting.current sig with
  | error e =>
    have unread := describe_toBool k flags r.nesting.current sig
    simp [described, readsAs, read, Except.toBool] at unread
  | ok d =>
    rw [described] at h
    dsimp only at h
    obtain ⟨s', read', signature, name⟩ := Describe.describe_ok described
    rw [read] at read'
    obtain rfl := Except.ok.inj read'
    have full : d.signature.fullName = nameUnder r.nesting.current s := by
      rw [signature, fullName_under]
    have shown : ("fullname", Value.str (nameUnder r.nesting.current s)) ∈
        [("first", Value.bool false)] ++ d.attrs := by
      simp [Describe.Described.attrs, full]
    split at h
    · cases h
      exact ⟨_, d.nodes, rfl, shown, fun n mem => Or.inl mem⟩
    · obtain ⟨anchors, r₁, target, returned⟩ := reader_bind_ok h
      cases returned
      refine ⟨_, d.nodes, rfl, List.mem_append_left _ shown, fun n mem => ?_⟩
      rcases addTarget_cases target with ⟨-, rfl, -⟩ | ⟨-, -, -, -, inv⟩
      · exact Or.inl mem
      · rw [inv, Inventory.mem_names_insert, name, full] at mem
        exact mem

theorem describeObject_enters {k : Kind} {objtype : String} {line : Nat}
    {arguments : List String} {options : List (String × Option String)}
    {content : Reader (List Draft)} {r r' : Reading} {a : List Draft}
    (container : k.isContainer = true) (named : leavesStray k (arguments.headD "") = false)
    (kept : Drops content 0)
    (h : describeObject k objtype line arguments options content r = .ok (a, r')) :
    ∃ p r₁ body r₂,
      (linesNamed k r.nesting.current (signatureLines (arguments.headD ""))).eraseDups.getLast? =
        some p ∧ r₁.nesting = r.nesting.enter p ∧ content r₁ = .ok (body, r₂) ∧
      r'.nesting = r.nesting := by
  obtain ⟨-, -, r₁, body, r₂, -, start, -, -, run, after, -, -⟩ := describeObject_run h
  have stray := leavesStray_iff container (options.map (·.1)) r.nesting.current
    (arguments.headD "")
  rw [describedNames_eq_linesNamed] at stray
  cases entered :
      (linesNamed k r.nesting.current (signatureLines (arguments.headD ""))).eraseDups.getLast? with
  | none =>
    rw [stray.2 entered] at named
    cases named
  | some p =>
    have inside : r₁.nesting = r.nesting.enter p := by
      rw [start, contentNesting, if_pos container, describedNames_eq_linesNamed, entered]
    refine ⟨p, r₁, body, r₂, rfl, inside, run, ?_⟩
    rw [after, kept r₁ body r₂ run, inside, if_pos container, Nesting.outer_zero,
      ← Nesting.leave_eq_outer, Nesting.leave_enter]

theorem readDoc_records {doc text : String} {r r' : Reading} {result : List Draft × List String}
    (clean : blocksStrays (readDocument buildSpecs text) = 0)
    (h : readDoc doc text r = .ok (result, r')) :
    r'.nesting = .top ∧ ∀ n, n ∈ r'.inventory.names ↔
      n ∈ r.inventory.names ∨ n ∈ blocksNames none (readDocument buildSpecs text) := by
  unfold readDoc at h
  obtain ⟨u, r₀, reset, rest⟩ := reader_bind_ok h
  simp only [reader_modify] at reset
  cases reset
  obtain ⟨ds, r₁, run, returned⟩ := reader_bind_ok rest
  cases returned
  -- a document starts with no anchors, so every anchor it has is recorded
  have fresh : AnchorsRecorded { r with doc, nesting := .top, anchors := [], serial := 0 } :=
    fun _ _ mem => by simp at mem
  obtain ⟨-, names⟩ := blocksDrafts_records _ none clean _ ds _ rfl fresh run
  exact ⟨by simpa using (blocksDrafts_drops _).of_eq clean _ ds _ run, names⟩

/-- How the members of a document are named. A line that reads as `s` gets a node whose full name
is `nameUnder` the innermost name the nesting has entered, and records its object, if at all,
under that name; a container with a line that reads enters, for its content, the last of the
distinct names its lines take, and leaves the nesting as it found it; and reading a document
none of whose containers lacks a line that reads records exactly the names `blocksNames` gives
it and ends at the top of the nesting. -/
structure NamesByContainer : Prop where
  line : ∀ (k : Kind) (objtype : String) (line : Nat) (flags : List String) (noindex : Bool)
      (acc acc' : Signatures) (sig : String) (r r' : Reading) (s : Signature),
    describeSignature k objtype line flags noindex acc sig r = .ok (acc', r') →
    Signature.read k.shape (String.ofList (stripBlanks sig.toList)) = .ok s →
    ∃ attrs children, acc'.nodes = acc.nodes ++ [.element "desc_signature" attrs children] ∧
      ("fullname", Value.str (nameUnder r.nesting.current s)) ∈ attrs ∧
      ∀ n ∈ r'.inventory.names, n ∈ r.inventory.names ∨ n = nameUnder r.nesting.current s
  container : ∀ (k : Kind) (objtype : String) (line : Nat) (arguments : List String)
      (options : List (String × Option String)) (content : Reader (List Draft))
      (r r' : Reading) (a : List Draft),
    k.isContainer = true → leavesStray k (arguments.headD "") = false → Drops content 0 →
    describeObject k objtype line arguments options content r = .ok (a, r') →
    ∃ p r₁ body r₂,
      (linesNamed k r.nesting.current (signatureLines (arguments.headD ""))).eraseDups.getLast? =
        some p ∧ r₁.nesting = r.nesting.enter p ∧ content r₁ = .ok (body, r₂) ∧
      r'.nesting = r.nesting
  document : ∀ (doc text : String) (r r' : Reading) (result : List Draft × List String),
    blocksStrays (readDocument buildSpecs text) = 0 →
    readDoc doc text r = .ok (result, r') →
    r'.nesting = .top ∧ ∀ n, n ∈ r'.inventory.names ↔
      n ∈ r.inventory.names ∨ n ∈ blocksNames none (readDocument buildSpecs text)

theorem reading_names_members_by_container : NamesByContainer :=
  ⟨fun _ _ _ _ _ _ _ _ _ _ _ h read => describeSignature_named h read,
    fun _ _ _ _ _ _ _ _ _ container named kept h => describeObject_enters container named kept h,
    fun _ _ _ _ _ clean h => readDoc_records clean h⟩

def nestedClassDocument : String :=
  ".. dn:namespace:: A\n\n   .. dn:class:: B\n                 C\n                 B\n\n" ++
    "      .. dn:method:: m()\n"

def freshReading : Reading := ⟨["index"], "index", .empty, .top, [], 0, [], []⟩

theorem reading_names_members_by_container_at_nested_class :
    blocksStrays (readDocument buildSpecs nestedClassDocument) = 0 ∧
      blocksNames none (readDocument buildSpecs nestedClassDocument) =
        ["A", "A.B", "A.C", "A.B", "A.C.m"] ∧
      ∃ result r', readDoc "index" nestedClassDocument freshReading = .ok (result, r') ∧
        r'.nesting = .top ∧ ∀ n, n ∈ r'.inventory.names ↔ n ∈ freshReading.inventory.names ∨
          n ∈ blocksNames none (readDocument buildSpecs nestedClassDocument) := by
  have clean : blocksStrays (readDocument buildSpecs nestedClassDocument) = 0 := by
    decide +kernel
  obtain ⟨x, run⟩ : ∃ x, readDoc "index" nestedClassDocument freshReading = .ok x :=
    exists_ok_of_toOption (by decide +kernel)
  exact ⟨clean, by decide +kernel, x.1, x.2, run,
    reading_names_members_by_container.document _ _ _ _ _ clean run⟩

def insideA : Reading := ⟨["index"], "index", .empty, ⟨["A"]⟩, [], 0, [], []⟩

/-- A repeated name keeps its first place: inside namespace `A`, a class with the lines `B`, `C`
and `B` names its method `A.C.m`, although the last line that reads is `B`. -/
theorem method_named_by_first_places :
    ((blocksDrafts [.directive 1 "dn:class" ["B\nC\nB"] []
        [.directive 5 "dn:method" ["m()"] [] [] []] []] insideA).toOption.map
      fun run => run.2.inventory.names) = some ["A.B", "A.C", "A.C.m"] := by
  decide +kernel

end NetApiDoc.Build
