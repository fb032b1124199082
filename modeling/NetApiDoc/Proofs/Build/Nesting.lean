import NetApiDoc.Build.Read

set_option autoImplicit false

namespace NetApiDoc.Build

open NetApiDoc.Markup NetApiDoc.Text

variable {α β : Type}

/-! ### The reader monad, one step at a time -/

@[simp] theorem reader_get (r : Reading) : (get : Reader Reading) r = .ok (r, r) := rfl

@[simp] theorem reader_set (s r : Reading) : (set s : Reader PUnit) r = .ok (⟨⟩, s) := rfl

@[simp] theorem reader_modify (f : Reading → Reading) (r : Reading) :
    (modify f : Reader PUnit) r = .ok (⟨⟩, f r) := rfl

@[simp] theorem reader_pure (a : α) (r : Reading) : (pure a : Reader α) r = .ok (a, r) := rfl

@[simp] theorem reader_lift (e : Except Error α) (r : Reading) :
    (StateT.lift e : Reader α) r = e.bind fun a => .ok (a, r) := rfl

theorem reader_bind (x : Reader α) (f : α → Reader β) (r : Reading) :
    (x >>= f) r = match x r with
      | .ok p => f p.1 p.2
      | .error e => .error e := by
  show StateT.bind x f r = _
  simp only [StateT.bind, bind, Except.bind]
  cases x r <;> rfl

theorem reader_bind_ok {x : Reader α} {f : α → Reader β} {r r' : Reading} {b : β}
    (h : (x >>= f) r = .ok (b, r')) : ∃ a r₁, x r = .ok (a, r₁) ∧ f a r₁ = .ok (b, r') := by
  rw [reader_bind] at h
  split at h
  · exact ⟨_, _, by assumption, h⟩
  · cases h

/-! ### Dropping innermost names -/

namespace Nesting

def outer (m : Nesting) (n : Nat) : Nesting := ⟨m.names.take (m.names.length - n)⟩

@[simp] theorem outer_zero (m : Nesting) : m.outer 0 = m := by
  simp [outer]

theorem outer_outer (m : Nesting) (a b : Nat) : (m.outer a).outer b = m.outer (a + b) := by
  simp only [outer, List.length_take, List.take_take, Nesting.mk.injEq]
  congr 1
  omega

theorem leave_eq_outer (m : Nesting) : m.leave = m.outer 1 := by
  simp [leave, outer, List.dropLast_eq_take]

theorem outer_succ_enter (m : Nesting) (p : String) (n : Nat) :
    (m.enter p).outer (n + 1) = m.outer n := by
  have within : m.names.length - n ≤ m.names.length := Nat.sub_le _ _
  simp only [outer, enter, List.length_append, List.length_singleton, Nat.add_sub_add_right,
    List.take_append_of_le_length within]

theorem leave_outer_enter (m : Nesting) (p : String) (n : Nat) :
    ((m.enter p).outer n).leave = m.outer n := by
  rw [leave_eq_outer, outer_outer, outer_succ_enter]

end Nesting

def Drops (x : Reader α) (n : Nat) : Prop :=
  ∀ r a r', x r = .ok (a, r') → r'.nesting = r.nesting.outer n

theorem drops_pure (a : α) : Drops (pure a : Reader α) 0 := by
  intro r b r' h
  cases h
  simp

theorem drops_bind {x : Reader α} {f : α → Reader β} {a b : Nat} (hx : Drops x a)
    (hf : ∀ v, Drops (f v) b) : Drops (x >>= f) (a + b) := by
  intro r c r' h
  obtain ⟨v, r₁, first, rest⟩ := reader_bind_ok h
  rw [hf v r₁ c r' rest, hx r v r₁ first, Nesting.outer_outer]

theorem Drops.of_eq {x : Reader α} {a b : Nat} (h : Drops x a) (same : a = b) : Drops x b :=
  same ▸ h

theorem drops_keep_bind {x : Reader α} {f : α → Reader β} {b : Nat} (hx : Drops x 0)
    (hf : ∀ v, Drops (f v) b) : Drops (x >>= f) b :=
  (drops_bind hx hf).of_eq (Nat.zero_add b)

theorem Drops.bind_pure {x : Reader α} {n : Nat} (hx : Drops x n) (f : α → β) :
    Drops (x >>= fun v => pure (f v)) n :=
  (drops_bind hx fun v => drops_pure (f v)).of_eq (Nat.add_zero n)

/-! ### Readers that keep what naming reads -/

def Reading.naming (r : Reading) : Nesting × Inventory × List String :=
  (r.nesting, r.inventory, r.anchors)

def Keeps (x : Reader α) : Prop := ∀ r a r', x r = .ok (a, r') → r'.naming = r.naming

theorem Keeps.drops {x : Reader α} (keeps : Keeps x) : Drops x 0 := by
  intro r a r' h
  have same := congrArg Prod.fst (keeps r a r' h)
  simpa [Reading.naming] using same

theorem keeps_pure (a : α) : Keeps (pure a : Reader α) := by
  intro r b r' h
  cases h
  rfl

theorem keeps_bind {x : Reader α} {f : α → Reader β} (hx : Keeps x) (hf : ∀ v, Keeps (f v)) :
    Keeps (x >>= f) := by
  intro r c r' h
  obtain ⟨v, r₁, first, rest⟩ := reader_bind_ok h
  rw [hf v r₁ c r' rest, hx r v r₁ first]

theorem keeps_get : Keeps (get : Reader Reading) := by
  intro r a r' h
  cases h
  rfl

theorem keeps_modify {f : Reading → Reading} (keeps : ∀ r, (f r).naming = r.naming) :
    Keeps (modify f : Reader PUnit) := by
  intro r a r' h
  cases h
  exact keeps r

theorem keeps_lift (e : Except Error α) : Keeps (StateT.lift e : Reader α) := by
  intro r a r' h
  cases e with
  | error _ => cases h
  | ok _ =>
    cases h
    rfl

theorem keeps_mapM {f : α → Reader β} (keeps : ∀ a, Keeps (f a)) :
    ∀ l : List α, Keeps (l.mapM f)
  | [] => by simpa using keeps_pure []
  | a :: l => by
    rw [List.mapM_cons]
    exact keeps_bind (keeps a) fun _ => keeps_bind (keeps_mapM keeps l) fun _ => keeps_pure _

theorem keeps_foldlM {f : β → α → Reader β} (keeps : ∀ b a, Keeps (f b a)) :
    ∀ (l : List α) (b : β), Keeps (l.foldlM f b)
  | [], b => by simpa using keeps_pure b
  | a :: l, b => by
    rw [List.foldlM_cons]
    exact keeps_bind (keeps b a) fun b' => keeps_foldlM keeps l b'

theorem warn_keeps (line : Option Nat) (message : List String) : Keeps (warn line message) :=
  keeps_modify fun _ => rfl

theorem nextId_keeps : Keeps nextId := by
  intro r a r' h
  simp only [nextId, reader_bind, reader_get, reader_set, reader_pure] at h
  cases h
  rfl

theorem addTarget_cases {k : Kind} {objtype : String} {line : Nat} {full : String}
    {r r' : Reading} {attrs : List (String × Value)}
    (h : addTarget k objtype line full r = .ok (attrs, r')) :
    (attrs = [] ∧ r' = r ∧ r.anchors.contains (k.shortName ++ "-" ++ full) = true) ∨
      (attrs = [("ids", .list [.str (k.shortName ++ "-" ++ full)]),
          ("names", .list [.str (k.shortName ++ "-" ++ full)])] ∧
        r'.doc = r.doc ∧ r'.nesting = r.nesting ∧
        r'.anchors = r.anchors ++ [k.shortName ++ "-" ++ full] ∧
        r'.inventory = r.inventory.insert full ⟨some r.doc, some objtype⟩) := by
  simp only [addTarget, reader_bind, reader_get] at h
  split at h
  · cases h
    exact Or.inl ⟨rfl, rfl, by assumption⟩
  · obtain ⟨_, r₁, noted, rest⟩ := reader_bind_ok h
    cases noted
    -- a duplicate is warned about, which touches only the warnings
    cases found : r.inventory.get? full with
    | some e =>
      rw [found] at rest
      obtain ⟨_, r₂, warned, stored⟩ := reader_bind_ok rest
      simp only [warn, reader_modify] at warned
      cases warned
      obtain ⟨_, r₃, recorded, returned⟩ := reader_bind_ok stored
      simp only [reader_modify] at recorded
      cases recorded
      cases returned
      exact Or.inr ⟨rfl, rfl, rfl, rfl, rfl⟩
    | none =>
      rw [found] at rest
      obtain ⟨_, r₃, recorded, returned⟩ := reader_bind_ok rest
      simp only [reader_modify] at recorded
      cases recorded
      cases returned
      exact Or.inr ⟨rfl, rfl, rfl, rfl, rfl⟩

theorem addTarget_drops (k : Kind) (objtype : String) (line : Nat) (full : String) :
    Drops (addTarget k objtype line full) 0 := by
  intro r a r' h
  rcases addTarget_cases h with ⟨-, rfl, -⟩ | ⟨-, -, kept, -, -⟩
  · simp
  · simp [kept]

theorem inlineDrafts_keeps (line : Nat) (i : Inline) : Keeps (inlineDrafts line i) := by
  cases i with
  | text s => exact keeps_pure _
  | styled tag s => exact keeps_pure _
  | interpreted role t =>
    cases role with
    | none => exact keeps_pure _
    | some role =>
      refine keeps_bind keeps_get fun _ => ?_
      split
      · exact keeps_pure _
      · exact keeps_pure _
      · exact keeps_bind (warn_keeps _ _) fun _ => keeps_bind nextId_keeps fun _ =>
          keeps_bind nextId_keeps fun _ => keeps_pure _

theorem inlinesDrafts_keeps (line : Nat) (content : List Inline) :
    Keeps (inlinesDrafts line content) :=
  keeps_bind (keeps_mapM (inlineDrafts_keeps line) content) fun _ => keeps_pure _

theorem tableEntry_keeps (line : Nat) (flags : List String) (acc : List String × List String)
    (entry : String) : Keeps (tableEntry line flags acc entry) := by
  -- every branch warns at most once and returns: take the branches apart until each is a step
  unfold tableEntry
  repeat' first
    | split
    | refine keeps_bind ?_ fun _ => ?_
    | exact keeps_get
    | exact warn_keeps _ _
    | exact keeps_pure _
    | dsimp only

theorem tableDrafts_keeps (line : Nat) (options : List (String × Option String))
    (lines : List String) : Keeps (tableDrafts line options lines) :=
  keeps_bind keeps_get fun _ =>
    keeps_bind (keeps_foldlM (tableEntry_keeps line _) _ _) fun _ =>
      keeps_bind (keeps_modify fun _ => rfl) fun _ => keeps_pure _

/-! ### Keeping the first of equal names -/

def appendNew {γ : Type} [BEq γ] (l : List γ) (x : γ) : List γ :=
  if l.contains x then l else l ++ [x]

theorem foldl_appendNew {γ : Type} [BEq γ] [LawfulBEq γ] :
    ∀ (xs acc : List γ), xs.foldl appendNew acc = acc ++ (xs.removeAll acc).eraseDups
  | [], acc => by simp
  | x :: xs, acc => by
    rw [List.foldl_cons, foldl_appendNew xs]
    by_cases held : x ∈ acc
    · have skipped : (x :: xs).removeAll acc = xs.removeAll acc := by
        simp [List.removeAll, held]
      simp [appendNew, held, skipped]
    · have kept : (x :: xs).removeAll acc = x :: xs.removeAll acc := by
        simp [List.removeAll, held]
      have rest : (xs.removeAll acc).filter (fun b => !b == x) = xs.removeAll (acc ++ [x]) := by
        simp only [List.removeAll, List.filter_filter, List.elem_eq_contains, List.contains_append]
        congr 1
        funext b
        by_cases same : b = x <;> simp [same]
      rw [kept, List.eraseDups_cons, rest]
      simp [appendNew, held]

theorem foldl_appendNew_nil {γ : Type} [BEq γ] [LawfulBEq γ] (xs : List γ) :
    xs.foldl appendNew [] = xs.eraseDups := by
  simp [foldl_appendNew]

theorem foldl_appendNew_map {γ δ : Type} [BEq γ] [LawfulBEq γ] [BEq δ] [LawfulBEq δ] {g : γ → δ}
    (injective : ∀ a b, g a = g b → a = b) :
    ∀ (xs acc : List γ), (xs.map g).foldl appendNew (acc.map g) = (xs.foldl appendNew acc).map g
  | [], acc => rfl
  | x :: xs, acc => by
    have step : appendNew (acc.map g) (g x) = (appendNew acc x).map g := by
      by_cases held : x ∈ acc
      · have present : g x ∈ acc.map g := List.mem_map_of_mem held
        simp [appendNew, held, present]
      · have absent : g x ∉ acc.map g := by
          simp only [List.mem_map, not_exists, not_and]
          intro a ha same
          exact held (injective a x same ▸ ha)
        simp [appendNew, held, absent]
    rw [List.map_cons, List.foldl_cons, List.foldl_cons, step, foldl_appendNew_map injective xs]

theorem eraseDups_eq_nil {γ : Type} [BEq γ] {xs : List γ} : xs.eraseDups = [] ↔ xs = [] := by
  cases xs with
  | nil => simp
  | cons x xs => simp [List.eraseDups_cons]

/-! ### Describing the signature lines of a directive -/

def readsAs (k : Kind) (line : String) : Bool :=
  (Signature.read k.shape (String.ofList (stripBlanks line.toList))).toBool

theorem describe_toBool (k : Kind) (flags : List String) (context : Option String)
    (line : String) : (Describe.describe k flags context line).toBool = readsAs k line := by
  unfold Describe.describe readsAs
  cases Signature.read k.shape (String.ofList (stripBlanks line.toList)) <;> rfl

theorem describe_container_name {k : Kind} (container : k.isContainer = true)
    {flags : List String} {context : Option String} {line : String} {d : Describe.Described}
    (h : Describe.describe k flags context line = .ok d) :
    d.name = (d.signature.fullName, some d.signature.fullName) := by
  unfold Describe.describe at h
  cases hread : Signature.read k.shape (String.ofList (stripBlanks line.toList)) with
  | error e =>
    rw [hread] at h
    cases h
  | ok read =>
    simp only [hread, container, if_true] at h
    cases h
    rfl

def addDescribed (names : List (String × Option String)) :
    Except Error Describe.Described → List (String × Option String)
  | .ok d => appendNew names d.name
  | .error _ => names

theorem describeSignature_run {k : Kind} {objtype : String} {line : Nat} {flags : List String}
    {noindex : Bool} {acc acc' : Signatures} {sig : String} {r r' : Reading}
    (h : describeSignature k objtype line flags noindex acc sig r = .ok (acc', r')) :
    r'.nesting = r.nesting ∧
      acc'.names = addDescribed acc.names (Describe.describe k flags r.nesting.current sig) := by
  simp only [describeSignature, reader_bind, reader_get] at h
  cases described : Describe.describe k flags r.nesting.current sig with
  | error e =>
    rw [described] at h
    obtain ⟨u, r₁, warned, returned⟩ := reader_bind_ok h
    cases returned
    exact ⟨by simpa using (warn_keeps _ _).drops r u r' warned, by simp [addDescribed]⟩
  | ok d =>
    rw [described] at h
    dsimp only at h
    split at h
    · cases h
      exact ⟨rfl, by simp [addDescribed, appendNew]⟩
    · rename_i fresh
      obtain ⟨anchors, r₁, target, returned⟩ := reader_bind_ok h
      cases returned
      have unnamed : acc.names.contains d.name = false := by
        simpa using (Bool.or_eq_false_iff.1 (Bool.eq_false_iff.2 fresh)).1
      exact ⟨by simpa using addTarget_drops k objtype line _ r anchors r' target,
        by simp only [addDescribed, appendNew, unnamed, Bool.false_eq_true, if_false]⟩

theorem describeSignatures_run {k : Kind} {objtype : String} {line : Nat} {flags : List String}
    {noindex : Bool} (lines : List String) {acc sigs : Signatures} {r r' : Reading}
    (h : lines.foldlM (describeSignature k objtype line flags noindex) acc r = .ok (sigs, r')) :
    r'.nesting = r.nesting ∧ sigs.names = lines.foldl
      (fun names sig => addDescribed names (Describe.describe k flags r.nesting.current sig))
      acc.names := by
  -- one signature line at a time; the nesting, kept by each, is the one every line sees
  induction lines generalizing acc r with
  | nil =>
    cases h
    exact ⟨rfl, rfl⟩
  | cons sig lines ih =>
    rw [List.foldlM_cons] at h
    obtain ⟨acc₁, r₁, first, rest⟩ := reader_bind_ok h
    obtain ⟨kept, added⟩ := describeSignature_run first
    obtain ⟨kept', collected⟩ := ih rest
    rw [kept] at kept' collected
    exact ⟨kept', by rw [collected, added, List.foldl_cons]⟩

def describedNames (k : Kind) (flags : List String) (context : Option String)
    (lines : List String) : List String :=
  lines.filterMap fun line => (Describe.describe k flags context line).toOption.map
    (·.signature.fullName)

theorem describedNames_cons_error {k : Kind} {flags : List String} {context : Option String}
    {line : String} {lines : List String} {e : Error}
    (h : Describe.describe k flags context line = .error e) :
    describedNames k flags context (line :: lines) = describedNames k flags context lines := by
  simp [describedNames, h, Except.toOption]

theorem describedNames_cons_ok {k : Kind} {flags : List String} {context : Option String}
    {line : String} {lines : List String} {d : Describe.Described}
    (h : Describe.describe k flags context line = .ok d) :
    describedNames k flags context (line :: lines) =
      d.signature.fullName :: describedNames k flags context lines := by
  simp [describedNames, h, Except.toOption]

theorem container_names {k : Kind} (container : k.isContainer = true) (flags : List String)
    (context : Option String) (lines : List String) :
    lines.foldl (fun names sig => addDescribed names (Describe.describe k flags context sig)) [] =
      (describedNames k flags context lines).eraseDups.map fun n => (n, some n) := by
  -- a container's name is its full name twice, so adding names is adding full names
  have pairs : ∀ (lines : List String) (acc : List (String × Option String)),
      lines.foldl (fun names sig => addDescribed names (Describe.describe k flags context sig)) acc =
        ((describedNames k flags context lines).map fun n => (n, some n)).foldl appendNew acc := by
    intro lines
    induction lines with
    | nil => intro acc; rfl
    | cons line lines ih =>
      intro acc
      cases described : Describe.describe k flags context line with
      | error e =>
        rw [List.foldl_cons, described, describedNames_cons_error described]
        exact ih acc
      | ok d =>
        rw [List.foldl_cons, described, describedNames_cons_ok described, List.map_cons,
          List.foldl_cons, addDescribed, describe_container_name container described]
        exact ih _
  have injective : ∀ a b : String, (a, some a) = (b, some b) → a = b := fun _ _ same =>
    (Prod.mk.inj same).1
  rw [pairs, ← List.map_nil, foldl_appendNew_map injective, foldl_appendNew_nil]

theorem describedNames_eq_nil {k : Kind} {flags : List String} {context : Option String}
    {lines : List String} :
    describedNames k flags context lines = [] ↔ ∀ line ∈ lines, readsAs k line = false := by
  simp only [describedNames, List.filterMap_eq_nil_iff, Option.map_eq_none_iff]
  refine forall_congr' fun line => imp_congr_right fun _ => ?_
  rw [← describe_toBool k flags context line]
  cases Describe.describe k flags context line <;> simp [Except.toOption, Except.toBool]

def leavesStray (k : Kind) (argument : String) : Bool :=
  k.isContainer && !(signatureLines argument).any (readsAs k)

def contentNesting (k : Kind) (flags : List String) (m : Nesting) (lines : List String) :
    Nesting :=
  if k.isContainer then
    match (describedNames k flags m.current lines).eraseDups.getLast? with
    | some p => m.enter p
    | none => m
  else m

theorem leaving_run {member : Bool} {body : List Draft} {shown : List Draft → List Draft}
    {s r' : Reading} {a : List Draft}
    (ran : (StateT.lift (transformFields member body) >>= fun body =>
      modify (fun r => { r with nesting := r.nesting.leave }) >>= fun _ => pure (shown body)) s =
        .ok (a, r')) :
    r'.nesting = s.nesting.outer 1 ∧ r'.inventory = s.inventory ∧ r'.anchors = s.anchors := by
  obtain ⟨b, s₁, lifted, rest⟩ := reader_bind_ok ran
  have same := keeps_lift _ s b s₁ lifted
  simp only [Reading.naming, Prod.mk.injEq] at same
  obtain ⟨u, s₂, left, returned⟩ := reader_bind_ok rest
  simp only [reader_modify] at left
  cases left
  cases returned
  exact ⟨by rw [← Nesting.leave_eq_outer, same.1], same.2.1, same.2.2⟩

theorem describeObject_run {k : Kind} {objtype : String} {line : Nat} {arguments : List String}
    {options : List (String × Option String)} {content : Reader (List Draft)} {r r' : Reading}
    {a : List Draft} (h : describeObject k objtype line arguments options content r = .ok (a, r')) :
    ∃ sigs r₀ r₁ body r₂,
      (signatureLines (arguments.headD "")).foldlM (describeSignature k objtype line
          (options.map (·.1)) ((options.map (·.1)).contains "noindex")) ⟨[], [], []⟩ r =
        .ok (sigs, r₀) ∧
      r₁.nesting = contentNesting k (options.map (·.1)) r.nesting
        (signatureLines (arguments.headD "")) ∧
      r₁.inventory = r₀.inventory ∧ r₁.anchors = r₀.anchors ∧ content r₁ = .ok (body, r₂) ∧
      r'.nesting = r₂.nesting.outer (if k.isContainer then 1 else 0) ∧
      r'.inventory = r₂.inventory ∧ r'.anchors = r₂.anchors := by
  unfold describeObject at h
  obtain ⟨sigs, r₀, described, rest⟩ := reader_bind_ok h
  obtain ⟨kept, collected⟩ := describeSignatures_run _ described
  dsimp only at rest
  by_cases container : k.isContainer = true
  · -- a container enters the last of the distinct names its lines describe, if there is one
    have names := container_names container (options.map (·.1)) r.nesting.current
      (signatureLines (arguments.headD ""))
    simp only [container, if_true] at rest
    rcases entered : (describedNames k (options.map (·.1)) r.nesting.current
      (signatureLines (arguments.headD ""))).eraseDups.getLast? with _ | p
    · have last : sigs.names.getLast? = none := by
        rw [collected, names, List.getLast?_map, entered]
        rfl
      simp only [last] at rest
      obtain ⟨body, r₂, run, after⟩ := reader_bind_ok rest
      obtain ⟨left, inv, anchors⟩ := leaving_run after
      refine ⟨sigs, r₀, r₀, body, r₂, described, ?_, rfl, rfl, run, ?_, inv, anchors⟩
      · rw [kept, contentNesting, if_pos container, entered]
      · rw [left, if_pos container]
    · have last : sigs.names.getLast? = some (p, some p) := by
        rw [collected, names, List.getLast?_map, entered]
        rfl
      simp only [last] at rest
      obtain ⟨u, r₁, enter, rest⟩ := reader_bind_ok rest
      cases enter
      obtain ⟨body, r₂, run, after⟩ := reader_bind_ok rest
      obtain ⟨left, inv, anchors⟩ := leaving_run after
      refine ⟨sigs, r₀, { r₀ with nesting := r₀.nesting.enter p }, body, r₂, described, ?_, rfl,
        rfl, run, ?_, inv, anchors⟩
      · show r₀.nesting.enter p = _
        rw [kept, contentNesting, if_pos container, entered]
      · rw [left, if_pos container]
  · simp only [container, Bool.false_eq_true, if_false] at rest
    obtain ⟨body, r₂, run, after⟩ := reader_bind_ok rest
    have same : r'.naming = r₂.naming :=
      (keeps_bind (keeps_lift _) fun _ => keeps_pure _) r₂ a r' after
    simp only [Reading.naming, Prod.mk.injEq] at same
    refine ⟨sigs, r₀, r₀, body, r₂, described, by rw [kept, contentNesting, if_neg container],
      rfl, rfl, run, ?_, same.2.1, same.2.2⟩
    rw [same.1, if_neg container, Nesting.outer_zero]

theorem leavesStray_iff {k : Kind} (container : k.isContainer = true) (flags : List String)
    (context : Option String) (argument : String) :
    leavesStray k argument = true ↔
      (describedNames k flags context (signatureLines argument)).eraseDups.getLast? = none := by
  rw [List.getLast?_eq_none_iff, eraseDups_eq_nil, describedNames_eq_nil]
  simp [leavesStray, container]

theorem describeObject_drops {k : Kind} {objtype : String} {line : Nat} {arguments : List String}
    {options : List (String × Option String)} {content : Reader (List Draft)} {n : Nat}
    (inner : Drops content n) :
    Drops (describeObject k objtype line arguments options content)
      (n + if leavesStray k (arguments.headD "") then 1 else 0) := by
  intro r a r' h
  obtain ⟨-, -, r₁, body, r₂, -, start, -, -, run, after, -, -⟩ := describeObject_run h
  rw [after, inner r₁ body r₂ run, start, contentNesting]
  by_cases container : k.isContainer = true
  · have stray := leavesStray_iff container (options.map (·.1)) r.nesting.current
      (arguments.headD "")
    simp only [container, if_true]
    split
    · rename_i p entered
      -- a line describes, so the container entered a name and leaves it
      have named : leavesStray k (arguments.headD "") = false := by
        cases h : leavesStray k (arguments.headD "") with
        | false => rfl
        | true => rw [stray.1 h] at entered; cases entered
      rw [named, Nesting.outer_outer, Nesting.outer_succ_enter]
      simp
    · rename_i entered
      rw [stray.2 entered, if_pos rfl, Nesting.outer_outer]
  · have named : leavesStray k (arguments.headD "") = false := by
      simp only [leavesStray, container, Bool.false_and]
    simp only [container, named, Bool.false_eq_true, if_false, Nesting.outer_zero, Nat.add_zero]

/-! ### The run over a tree of body elements -/

def directiveStrays (name : String) (arguments : List String) (inner : Nat) : Nat :=
  match directiveUse (lowerText name) with
  | some (.object k _) => inner + if leavesStray k (arguments.headD "") then 1 else 0
  | _ => 0

mutual
def blockStrays : Block → Nat
  | .bulletList _ items => itemsStrays items
  | .fieldList fields => fieldsStrays fields
  | .definitionList items => fieldsStrays items
  | .quote blocks => blocksStrays blocks
  | .directive _ name arguments _ blocks _ => directiveStrays name arguments (blocksStrays blocks)
  | .paragraph _ _ | .comment _ | .problem _ _ => 0

def blocksStrays : List Block → Nat
  | [] => 0
  | b :: bs => blockStrays b + blocksStrays bs

def itemsStrays : List (List Block) → Nat
  | [] => 0
  | item :: items => blocksStrays item + itemsStrays items

def fieldsStrays : List (List Inline × Nat × List Block) → Nat
  | [] => 0
  | (_, _, body) :: fields => blocksStrays body + fieldsStrays fields
end

theorem directiveDrafts_drops (line : Nat) (name : String) (arguments : List String)
    (options : List (String × Option String)) {content : Reader (List Draft)} {n : Nat}
    (inner : Drops content n) (lines : List String) :
    Drops (directiveDrafts line name arguments options content lines)
      (directiveStrays name arguments n) := by
  unfold directiveDrafts directiveStrays
  cases directiveUse (lowerText name) with
  | none => exact drops_pure _
  | some use =>
    cases use with
    | object k objtype => exact describeObject_drops inner
    | toctree => exact (tableDrafts_keeps line options lines).drops

mutual
theorem blockDrafts_drops : ∀ b : Block, Drops (blockDrafts b) (blockStrays b)
  | .paragraph line content => by
    rw [blockDrafts]
    exact drops_keep_bind (inlinesDrafts_keeps line content).drops fun _ => drops_pure _
  | .bulletList bullet items => by
    rw [blockDrafts, blockStrays]
    exact (itemsDrafts_drops items).bind_pure _
  | .fieldList fields => by
    rw [blockDrafts, blockStrays]
    exact (fieldsDrafts_drops fields).bind_pure _
  | .definitionList items => by
    rw [blockDrafts, blockStrays]
    exact (definitionsDrafts_drops items).bind_pure _
  | .quote blocks => by
    rw [blockDrafts, blockStrays]
    exact (blocksDrafts_drops blocks).bind_pure _
  | .comment text => by
    rw [blockDrafts]
    exact drops_pure _
  | .directive line name arguments options blocks lines => by
    rw [blockDrafts, blockStrays]
    exact directiveDrafts_drops line name arguments options (blocksDrafts_drops blocks) lines
  | .problem line message => by
    rw [blockDrafts]
    exact drops_keep_bind (warn_keeps _ _).drops fun _ => drops_pure _

theorem blocksDrafts_drops : ∀ bs : List Block, Drops (blocksDrafts bs) (blocksStrays bs)
  | [] => by
    rw [blocksDrafts]
    exact drops_pure _
  | b :: bs => by
    rw [blocksDrafts, blocksStrays]
    exact drops_bind (blockDrafts_drops b) fun _ => (blocksDrafts_drops bs).bind_pure _

theorem itemsDrafts_drops : ∀ items : List (List Block), Drops (itemsDrafts items) (itemsStrays items)
  | [] => by
    rw [itemsDrafts]
    exact drops_pure _
  | item :: items => by
    rw [itemsDrafts, itemsStrays]
    exact drops_bind (blocksDrafts_drops item) fun _ => (itemsDrafts_drops items).bind_pure _

theorem fieldsDrafts_drops :
    ∀ fields : List (List Inline × Nat × List Block), Drops (fieldsDrafts fields) (fieldsStrays fields)
  | [] => by
    rw [fieldsDrafts]
    exact drops_pure _
  | (name, line, body) :: fields => by
    rw [fieldsDrafts, fieldsStrays]
    exact drops_keep_bind (inlinesDrafts_keeps line name).drops fun _ =>
      drops_bind (blocksDrafts_drops body) fun _ => (fieldsDrafts_drops fields).bind_pure _

theorem definitionsDrafts_drops :
    ∀ items : List (List Inline × Nat × List Block),
      Drops (definitionsDrafts items) (fieldsStrays items)
  | [] => by
    rw [definitionsDrafts]
    exact drops_pure _
  | (term, line, body) :: items => by
    rw [definitionsDrafts, fieldsStrays]
    exact drops_keep_bind (inlinesDrafts_keeps line term).drops fun _ =>
      drops_bind (blocksDrafts_drops body) fun _ => (definitionsDrafts_drops items).bind_pure _
end

end NetApiDoc.Build
