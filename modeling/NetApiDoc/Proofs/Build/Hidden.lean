import NetApiDoc.Proofs.Build.Anchors

set_option autoImplicit false

namespace NetApiDoc.Build

variable {α : Type}

def isSignature : Draft → Bool
  | .done (.element tag _ _) => tag == "desc_signature"
  | _ => false

def popMarked (p : α → Bool) (m : Nat) (l : List α) : List α :=
  if h : m < l.length then
    if p l[m] then popMarked p (m + 1) (l.eraseIdx m) else popMarked p (m + 1) l
  else l
termination_by l.length - m
decreasing_by
  · rw [List.length_eraseIdx_of_lt h]
    omega
  · omega

theorem popMarked_of_unmarked (p : α → Bool) (m : Nat) (l : List α)
    (unmarked : ∀ x ∈ l.drop m, p x = false) : popMarked p m l = l := by
  fun_induction popMarked p m l with
  | case1 m l h marked =>
    have listed : l[m] ∈ l.drop m := by
      rw [List.mem_iff_getElem]
      exact ⟨0, by simp only [List.length_drop]; omega, by simp⟩
    rw [unmarked _ listed] at marked
    cases marked
  | case2 m l h _ ih =>
    exact ih fun x mem => unmarked x (List.mem_of_mem_tail (by rwa [List.tail_drop]))
  | case3 => rfl

theorem popMarked_at_marked (p : α → Bool) (done rest : List α) {a : α} (marked : p a = true) :
    popMarked p done.length (done ++ a :: rest) = popMarked p (done.length + 1) (done ++ rest) := by
  rw [popMarked, dif_pos (by simp), if_pos (by simpa using marked),
    List.eraseIdx_append_of_length_le (Nat.le_refl _)]
  simp

theorem eq_nil_or_singleton {l : List α} (short : ∀ a b rest, l = a :: b :: rest → False) :
    l = [] ∨ ∃ a, l = [a] := by
  match l with
  | [] => exact .inl rfl
  | [a] => exact .inr ⟨a, rfl⟩
  | a :: b :: rest => exact absurd rfl (short a b rest)

theorem length_dropAlternate (l : List α) : (dropAlternate l).length = l.length / 2 := by
  fun_induction dropAlternate l with
  | case1 a b rest ih =>
    simp only [List.length_cons, ih]
    omega
  | case2 l short => rcases eq_nil_or_singleton short with rfl | ⟨a, rfl⟩ <;> simp

theorem dropAlternate_sublist (l : List α) : (dropAlternate l).Sublist l := by
  fun_induction dropAlternate l with
  | case1 a b rest ih => exact (ih.cons_cons b).cons a
  | case2 => exact List.nil_sublist _

theorem map_dropAlternate {β : Type} (f : α → β) (l : List α) :
    (dropAlternate l).map f = dropAlternate (l.map f) := by
  fun_induction dropAlternate l with
  | case1 a b rest ih => simp [dropAlternate, ih]
  | case2 l short => rcases eq_nil_or_singleton short with rfl | ⟨a, rfl⟩ <;> rfl

theorem popMarked_marked_then_unmarked (p : α → Bool) (marked : List α)
    (allMarked : ∀ x ∈ marked, p x = true) (rest : List α)
    (noneMarked : ∀ x ∈ rest, p x = false)
    (done : List α) :
    popMarked p done.length (done ++ marked ++ rest) = done ++ dropAlternate marked ++ rest := by
  -- two marked items at a time: the first is removed and the second slides past the index
  induction marked using dropAlternate.induct generalizing done with
  | case1 a b more ih =>
    rw [List.append_assoc, List.cons_append,
      popMarked_at_marked p done _ (allMarked a (by simp))]
    have walked := ih (fun x mem => allMarked x (by simp [mem])) (done ++ [b])
    simp only [List.length_append, List.length_singleton, List.append_assoc,
      List.singleton_append] at walked
    rw [walked, dropAlternate]
    simp
  | case2 few short =>
    -- at most one marked item: it is removed, and the unmarked rest is walked without change
    have unmarked : ∀ x ∈ (done ++ rest).drop done.length, p x = false := by
      simpa using noneMarked
    rcases eq_nil_or_singleton short with rfl | ⟨a, rfl⟩
    · simpa [dropAlternate] using popMarked_of_unmarked p _ _ unmarked
    · rw [List.append_assoc, List.singleton_append,
        popMarked_at_marked p done rest (allMarked a (by simp)),
        show dropAlternate [a] = [] from rfl, List.append_nil]
      apply popMarked_of_unmarked
      intro x mem
      rw [← List.drop_drop] at mem
      exact unmarked x (List.mem_of_mem_drop mem)

/-! ### Describing the signatures -/

theorem describeSignature_adds_node {k : Kind} {objtype : String} {line : Nat}
    {flags : List String} {noindex : Bool} {acc acc' : Signatures} {sig : String}
    {r r' : Reading}
    (h : describeSignature k objtype line flags noindex acc sig r = .ok (acc', r')) :
    ∃ node, acc'.nodes = acc.nodes ++ [node] ∧ isSignature (.done node) = true := by
  simp only [describeSignature, reader_bind, reader_get] at h
  cases described : Describe.describe k flags r.nesting.current sig with
  | error e =>
    -- a line that does not read is shown as written, still in a signature node
    rw [described] at h
    obtain ⟨u, r₁, -, returned⟩ := reader_bind_ok h
    cases returned
    exact ⟨_, rfl, by simp [isSignature]⟩
  | ok d =>
    rw [described] at h
    dsimp only at h
    split at h
    · cases h
      exact ⟨_, rfl, by simp [isSignature]⟩
    · obtain ⟨anchors, r₁, -, returned⟩ := reader_bind_ok h
      cases returned
      exact ⟨_, rfl, by simp [isSignature]⟩

theorem describeSignatures_add_nodes {k : Kind} {objtype : String} {line : Nat}
    {flags : List String} {noindex : Bool} (lines : List String) {acc sigs : Signatures}
    {r r' : Reading}
    (h : lines.foldlM (describeSignature k objtype line flags noindex) acc r = .ok (sigs, r')) :
    ∃ nodes, sigs.nodes = acc.nodes ++ nodes ∧ nodes.length = lines.length ∧
      ∀ node ∈ nodes, isSignature (.done node) = true := by
  induction lines generalizing acc r with
  | nil =>
    cases h
    exact ⟨[], by simp, rfl, by simp⟩
  | cons sig lines ih =>
    rw [List.foldlM_cons] at h
    obtain ⟨acc₁, r₁, first, rest⟩ := reader_bind_ok h
    obtain ⟨node, added, signature⟩ := describeSignature_adds_node first
    obtain ⟨nodes, collected, counted, signatures⟩ := ih rest
    refine ⟨node :: nodes, by rw [collected, added]; simp, by simp [counted], ?_⟩
    intro n mem
    rcases List.mem_cons.1 mem with rfl | mem
    · exact signature
    · exact signatures n mem

/-! ### The description of a hidden container -/

/-- The children a hidden description shows, from the signature nodes of its lines and its
content: what the walk that removes signatures leaves of them, which is the second, fourth and
so on of the signatures, then the content; `n` signatures leave `n / 2`. -/
structure ShowsEverySecond (sigs : List Node) (body : List Draft) (children : List Draft) :
    Prop where
  walk : children = popMarked isSignature 0 (sigs.map .done ++ [.element "desc_content" [] body])
  kept : children = (dropAlternate sigs).map .done ++ [.element "desc_content" [] body]
  count : (children.filter isSignature).length = sigs.length / 2

theorem showsEverySecond {sigs : List Node}
    (signatures : ∀ n ∈ sigs, isSignature (.done n) = true) (body : List Draft) :
    ShowsEverySecond sigs body
      ((dropAlternate sigs).map .done ++ [.element "desc_content" [] body]) := by
  have walked := popMarked_marked_then_unmarked isSignature (sigs.map .done)
    (by simpa using signatures) [.element "desc_content" [] body] (by simp [isSignature]) []
  rw [List.nil_append, List.nil_append, List.length_nil] at walked
  refine ⟨by rw [walked, map_dropAlternate], rfl, ?_⟩
  -- the kept signatures are signatures, and the content is not one
  have shown : ∀ n ∈ dropAlternate sigs, isSignature (.done n) = true :=
    fun n mem => signatures n ((dropAlternate_sublist sigs).subset mem)
  rw [List.filter_append, List.filter_eq_self.2 (by simpa using shown)]
  simp [isSignature, length_dropAlternate]

theorem after_content_result {content : Reader (List Draft)} {member : Bool}
    {f : Reading → Reading} {g : List Draft → List Draft} {s s' : Reading} {a : List Draft}
    (h : (do
      let body ← content
      let body ← StateT.lift (transformFields member body)
      modify f
      pure (g body) : Reader (List Draft)) s = .ok (a, s')) : ∃ body, a = g body := by
  obtain ⟨read, s₁, -, h⟩ := reader_bind_ok h
  obtain ⟨body, s₂, -, h⟩ := reader_bind_ok h
  obtain ⟨u, s₃, -, h⟩ := reader_bind_ok h
  simp only [reader_pure, Except.ok.injEq, Prod.mk.injEq] at h
  exact ⟨body, h.1.symm⟩

/-- A container with the `hidden` option, whatever its signature lines, describes each line as
one signature node; of these its description shows what the walk that removes signatures by
index leaves: every second one, starting with the second, and after them its content. -/
theorem hidden_keeps_every_second_signature {k : Kind} (container : k.isContainer = true)
    {options : List (String × Option String)}
    (hidden : (options.map (·.1)).contains "hidden" = true)
    {objtype : String} {line : Nat} {arguments : List String} {content : Reader (List Draft)}
    {r r' : Reading} {drafts : List Draft}
    (ran : describeObject k objtype line arguments options content r = .ok (drafts, r')) :
    ∃ sigs entries attrs body children,
      sigs.length = (signatureLines (arguments.headD "")).length ∧
      (∀ n ∈ sigs, isSignature (.done n) = true) ∧
      drafts = [.done (.element "index" [("entries", .list entries)] []),
        .element "desc" attrs children] ∧
      ShowsEverySecond sigs body children := by
  unfold describeObject at ran
  obtain ⟨sigs, r₁, described, rest⟩ := reader_bind_ok ran
  obtain ⟨nodes, collected, counted, signatures⟩ := describeSignatures_add_nodes _ described
  -- after the signatures: a name entered or not, then the content, its fields and leaving
  simp only [container, if_true] at rest
  obtain ⟨body, shown⟩ : ∃ body, drafts =
      [.done (.element "index" [("entries", .list sigs.entries)] []),
        .element "desc" [("domain", .str "dn"), ("objtype", .str objtype),
          ("desctype", .str objtype), ("noindex", .bool ((options.map (·.1)).contains "noindex"))]
          ((if (true && (options.map (·.1)).contains "hidden") = true then dropAlternate sigs.nodes
            else sigs.nodes).map .done ++ [.element "desc_content" [] body])] := by
    rcases last : sigs.names.getLast? with _ | ⟨n, _ | p⟩
    all_goals simp only [last] at rest
    · exact after_content_result rest
    · exact after_content_result rest
    · obtain ⟨u, r₂, -, rest⟩ := reader_bind_ok rest
      exact after_content_result rest
  rw [Bool.true_and, if_pos hidden, collected, List.nil_append] at shown
  exact ⟨nodes, sigs.entries, _, body, _, counted, signatures, shown,
    showsEverySecond signatures body⟩

theorem hidden_keeps_every_second_signature_at_two_lines :
    ∃ drafts r', describeObject .cls "class" 1 ["A\nB"] [("hidden", none)] (pure [])
        readingIndex = .ok (drafts, r') ∧
      ∃ sigs entries attrs body children,
        sigs.length = (signatureLines (["A\nB"].headD "")).length ∧
        (∀ n ∈ sigs, isSignature (.done n) = true) ∧
        drafts = [.done (.element "index" [("entries", .list entries)] []),
          .element "desc" attrs children] ∧
        ShowsEverySecond sigs body children := by
  obtain ⟨⟨drafts, r'⟩, ran⟩ : ∃ result,
      describeObject .cls "class" 1 ["A\nB"] [("hidden", none)] (pure []) readingIndex =
        .ok result := exists_ok_of_toOption (by decide +kernel)
  exact ⟨drafts, r', ran, hidden_keeps_every_second_signature rfl rfl ran⟩

end NetApiDoc.Build
