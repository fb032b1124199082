import NetApiDoc.Reference.Field
import NetApiDoc.Proofs.Reference.Parts

set_option autoImplicit false

namespace NetApiDoc.Reference

def pendingXref (domain role target shown : String) : Node :=
  .element "pending_xref"
    [("refdomain", .str domain), ("refexplicit", .bool false), ("reftype", .str role),
      ("reftarget", .str target), ("refspecific", .bool true)]
    [.text shown]

def operatorLed (name : String) : Bool :=
  match name.toList with
  | '.' :: _ | '~' :: _ => true
  | _ => false

def RefPart.shown (p : RefPart) : String :=
  if p.target.isNone && operatorLed p.name then String.ofList (p.name.toList.drop 1) else p.name

def RefPart.TargetOf (p : RefPart) (target : String) : Prop :=
  (∀ a, p.target = some a → target = a) ∧
    (p.target = none → operatorLed p.name = false → target = p.name)

/-- `node` is the inline tree of `parts`, outermost first: the first part's pending reference, and
after it, between angle brackets, the tree of the rest. -/
inductive PartsTree (domain role : String) : List RefPart → Node → Prop
  | last (p : RefPart) (target : String) : p.TargetOf target →
      PartsTree domain role [p] (.element "inline" [] [pendingXref domain role target p.shown])
  | cons (p : RefPart) (ps : List RefPart) (target : String) (inner : Node) :
      p.TargetOf target → PartsTree domain role ps inner →
      PartsTree domain role (p :: ps)
        (.element "inline" [] [pendingXref domain role target p.shown, .text "<", inner, .text ">"])

def partsTree (domain role : String) : List RefPart → Node
  | [] => .element "inline" [] []
  | [p] => .element "inline" [] [pendingRef domain role p]
  | p :: ps =>
    .element "inline" [] [pendingRef domain role p, .text "<", partsTree domain role ps, .text ">"]

theorem wrapParts_cons (domain role : String) (p : RefPart) (ps : List RefPart) :
    wrapParts domain role (p :: ps) = wrapPart domain role (wrapParts domain role ps) p := by
  simp [wrapParts, List.foldl_append]

theorem wrapParts_eq_partsTree (domain role : String) :
    ∀ ps : List RefPart, ps ≠ [] → wrapParts domain role ps = some (partsTree domain role ps)
  | [], ne => absurd rfl ne
  | [p], _ => rfl
  | p :: q :: qs, _ => by
    -- the fold takes the parts innermost first, so the first part wraps the tree of the rest
    rw [wrapParts_cons, wrapParts_eq_partsTree domain role (q :: qs) (List.cons_ne_nil q qs)]
    rfl

theorem shownAndTarget_fst (p : RefPart) : p.shownAndTarget.1 = p.shown := by
  unfold RefPart.shownAndTarget RefPart.shown operatorLed
  split <;> simp_all

theorem targetOf_shownAndTarget (p : RefPart) : p.TargetOf p.shownAndTarget.2 := by
  unfold RefPart.shownAndTarget RefPart.TargetOf operatorLed
  split <;> simp_all

theorem pendingRef_eq (domain role : String) (p : RefPart) :
    pendingRef domain role p = pendingXref domain role p.shownAndTarget.2 p.shown := by
  rw [← shownAndTarget_fst]
  rfl

theorem PartsTree.ne_nil {domain role : String} {ps : List RefPart} {node : Node}
    (tree : PartsTree domain role ps node) : ps ≠ [] := by
  cases tree <;> simp

theorem partsTree_partsTree (domain role : String) :
    ∀ ps : List RefPart, ps ≠ [] → PartsTree domain role ps (partsTree domain role ps)
  | [], ne => absurd rfl ne
  | [p], _ => by
    rw [partsTree, pendingRef_eq]
    exact .last p _ (targetOf_shownAndTarget p)
  | p :: q :: qs, _ => by
    simp only [partsTree, pendingRef_eq]
    exact .cons p (q :: qs) _ _ (targetOf_shownAndTarget p)
      (partsTree_partsTree domain role (q :: qs) (List.cons_ne_nil q qs))

theorem plainText_of_partsTree {domain role : String} {ps : List RefPart} {node : Node}
    (tree : PartsTree domain role ps node) :
    node.plainText =
      "<".intercalate (ps.map RefPart.shown) ++
        String.ofList (List.replicate (ps.length - 1) '>') := by
  induction tree with
  | last p target _ => simp [pendingXref, Node.plainText, Node.plainTextAll]
  | cons p ps target inner _ rest ih =>
    obtain ⟨n, longer⟩ : ∃ n, ps.length = n + 1 :=
      Nat.exists_eq_succ_of_ne_zero (by simpa using rest.ne_nil)
    rw [List.map_cons, String.intercalate_cons_of_ne_nil (by simpa using rest.ne_nil)]
    simp only [pendingXref, Node.plainText, Node.plainTextAll, ih, longer]
    simp [String.ext_iff, longer, List.replicate_succ']

/-- With a nonempty role, a field's type reference is the wrapping element around the parts tree
of its target's split, whose text reads the shown names joined by `<` and closed by one `>` for
each part but the last; the content given for a field without role is not used. -/
theorem fieldReference_mirrors_split (role domain target inner : String) (named : role ≠ "")
    (content : Option String) :
    ∃ tree, fieldReference (some role) domain target inner content = .element inner [] [tree] ∧
      PartsTree domain role (split target) tree ∧
      tree.plainText = "<".intercalate ((split target).map RefPart.shown) ++
        String.ofList (List.replicate ((split target).length - 1) '>') ∧
      ∀ other, fieldReference (some role) domain target inner other =
        fieldReference (some role) domain target inner content := by
  have kept : role.isEmpty = false := by simpa using named
  have tree := partsTree_partsTree domain role (split target) (splitRefs_ne_nil _)
  have built := wrapParts_eq_partsTree domain role (split target) (splitRefs_ne_nil _)
  refine ⟨partsTree domain role (split target), ?_, tree, plainText_of_partsTree tree, ?_⟩
  · simp [fieldReference, kept, built]
  · intro other
    simp [fieldReference, kept]

theorem fieldReference_mirrors_split_at_nested :
    "obj" ≠ "" ∧
      ∃ tree, fieldReference (some "obj") "dn" "A\x7b~B.C\x7d" "emphasis" none =
          .element "emphasis" [] [tree] ∧
        PartsTree "dn" "obj" (split "A\x7b~B.C\x7d") tree ∧
        tree.plainText = "<".intercalate ((split "A\x7b~B.C\x7d").map RefPart.shown) ++
          String.ofList (List.replicate ((split "A\x7b~B.C\x7d").length - 1) '>') ∧
        ∀ other, fieldReference (some "obj") "dn" "A\x7b~B.C\x7d" "emphasis" other =
          fieldReference (some "obj") "dn" "A\x7b~B.C\x7d" "emphasis" none :=
  ⟨by decide,
    fieldReference_mirrors_split "obj" "dn" "A\x7b~B.C\x7d" "emphasis" (by decide) none⟩

end NetApiDoc.Reference
