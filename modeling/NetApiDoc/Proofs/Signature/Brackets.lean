import NetApiDoc.Proofs.Signature.Reading

set_option autoImplicit false

namespace NetApiDoc.Signature

open NetApiDoc.Text

def brackets : List Char := ['<', '{', '[', '(', '>', '}', ']', ')']

def isBracket (c : Char) : Bool := brackets.contains c

def closerOf (c : Char) : Option Char :=
  if c = '<' then some '>' else if c = '{' then some '}'
  else if c = '[' then some ']' else if c = '(' then some ')' else none

def bracketStep (c : Char) (expected : List Char) : Option (List Char) :=
  match closerOf c with
  | some d => some (d :: expected)
  | none =>
    if isBracket c then
      match expected with
      | d :: rest => if d = c then some rest else none
      | [] => none
    else some expected

def bracketRun (expected : List Char) : List Char → Option (List Char)
  | [] => some expected
  | c :: cs => (bracketStep c expected).bind fun e => bracketRun e cs

/-- A text whose brackets pair up: every closer answers the bracket opened last, and none is
left open. -/
def IsBalanced (s : List Char) : Prop := bracketRun [] s = some []

instance (s : List Char) : Decidable (IsBalanced s) :=
  inferInstanceAs (Decidable (bracketRun [] s = some []))

theorem bracketRun_append (expected u v : List Char) :
    bracketRun expected (u ++ v) = (bracketRun expected u).bind fun e => bracketRun e v := by
  induction u generalizing expected with
  | nil => rfl
  | cons c cs ih =>
    simp only [List.cons_append, bracketRun]
    cases bracketStep c expected with
    | none => rfl
    | some e => exact ih e

theorem closerOf_eq_none {c : Char} (plain : isBracket c = false) : closerOf c = none := by
  have differ : c ≠ '<' ∧ c ≠ '{' ∧ c ≠ '[' ∧ c ≠ '(' := by
    refine ⟨?_, ?_, ?_, ?_⟩ <;> rintro rfl <;> exact absurd plain (by decide)
  simp [closerOf, differ]

theorem bracketStep_plain {c : Char} (plain : isBracket c = false) (expected : List Char) :
    bracketStep c expected = some expected := by
  simp [bracketStep, closerOf_eq_none plain, plain]

theorem bracketRun_plain {u : List Char} (plain : ∀ c ∈ u, isBracket c = false)
    (expected : List Char) : bracketRun expected u = some expected := by
  induction u with
  | nil => rfl
  | cons c cs ih =>
    simp only [List.mem_cons, forall_eq_or_imp] at plain
    simp [bracketRun, bracketStep_plain plain.1, ih plain.2]

theorem bracketStep_cases {c : Char} {start after : List Char}
    (step : bracketStep c start = some after) :
    (∃ d, after = d :: start) ∨ start = c :: after ∨ after = start := by
  unfold bracketStep at step
  split at step
  · cases step
    exact .inl ⟨_, rfl⟩
  · split at step
    · split at step
      · split at step
        · cases step
          subst ‹_ = c›
          exact .inr (.inl rfl)
        · cases step
      · cases step
    · cases step
      exact .inr (.inr rfl)

theorem suffix_of_bracketStep {c x : Char} {e start after : List Char} (below : x :: e <:+ start)
    (step : bracketStep c start = some after) : e <:+ after := by
  have under : e <:+ start := (List.suffix_cons x e).trans below
  rcases bracketStep_cases step with ⟨d, rfl⟩ | rfl | rfl
  · exact under.trans (List.suffix_cons _ _)
  · -- a closer taken off is at worst `x` itself
    rcases List.suffix_cons_iff.1 below with same | deeper
    · exact (List.cons.inj same).2 ▸ List.suffix_refl e
    · exact (List.suffix_cons x e).trans deeper
  · exact under

theorem bracketStep_keeps {c d : Char} {e start after : List Char} (other : c ≠ d)
    (below : d :: e <:+ start) (step : bracketStep c start = some after) : d :: e <:+ after := by
  rcases bracketStep_cases step with ⟨x, rfl⟩ | rfl | rfl
  · exact below.trans (List.suffix_cons _ _)
  · rcases List.suffix_cons_iff.1 below with same | deeper
    · exact absurd (List.cons.inj same).1.symm other
    · exact deeper
  · exact below

def KeepsOpen (u : List Char) : Prop :=
  ∀ expected after, bracketRun expected u = some after → expected <:+ after

def KeepsExpected (d : Char) (u : List Char) : Prop :=
  ∀ e start after, d :: e <:+ start → bracketRun start u = some after → d :: e <:+ after

theorem KeepsOpen.keepsExpected {u : List Char} (keeps : KeepsOpen u) (d : Char) :
    KeepsExpected d u :=
  fun _ _ _ below run => below.trans (keeps _ _ run)

theorem keepsExpected_of_not_mem {d : Char} {u : List Char} (absent : d ∉ u) :
    KeepsExpected d u := by
  intro e start after below run
  induction u generalizing start with
  | nil =>
    cases run
    exact below
  | cons c cs ih =>
    simp only [List.mem_cons, not_or] at absent
    simp only [bracketRun] at run
    obtain ⟨mid, step, rest⟩ := Option.bind_eq_some_iff.1 run
    exact ih absent.2 _ (bracketStep_keeps (Ne.symm absent.1) below step) rest

theorem keepsOpen_of_plain {u : List Char} (plain : ∀ c ∈ u, isBracket c = false) :
    KeepsOpen u := by
  intro expected after run
  rw [bracketRun_plain plain] at run
  cases run
  exact List.suffix_refl _

theorem keepsOpen_append {u v : List Char} (hu : KeepsOpen u) (hv : KeepsOpen v) :
    KeepsOpen (u ++ v) := by
  intro expected after run
  rw [bracketRun_append] at run
  obtain ⟨mid, first, second⟩ := Option.bind_eq_some_iff.1 run
  exact (hu _ _ first).trans (hv _ _ second)

theorem keepsOpen_wrap {o d : Char} {w : List Char} (opens : closerOf o = some d)
    (inner : KeepsExpected d w) (c : Char) : KeepsOpen (o :: (w ++ [c])) := by
  intro expected after run
  have pushed : bracketStep o expected = some (d :: expected) := by simp [bracketStep, opens]
  simp only [bracketRun, pushed, Option.bind_some, bracketRun_append] at run
  obtain ⟨mid, inside, last⟩ := Option.bind_eq_some_iff.1 run
  simp only [Option.bind_eq_some_iff, Option.some.injEq] at last
  obtain ⟨stepped, step, rfl⟩ := last
  exact suffix_of_bracketStep (inner _ _ _ (List.suffix_refl _) inside) step

theorem isBalanced_of_append {u v : List Char} (balanced : IsBalanced (u ++ v))
    (keeps : KeepsOpen v) : IsBalanced u := by
  unfold IsBalanced at balanced ⊢
  rw [bracketRun_append] at balanced
  obtain ⟨mid, first, second⟩ := Option.bind_eq_some_iff.1 balanced
  rw [first, List.suffix_nil.1 (keeps _ _ second)]

/-! ### The member grammar keeps open what it finds -/

theorem isBracket_eq_false {p : Char → Bool} (none_ : ∀ b ∈ brackets, p b = false) {c : Char}
    (h : p c = true) : isBracket c = false := by
  cases bracket : isBracket c with
  | false => rfl
  | true =>
    have mem : c ∈ brackets := by simpa [isBracket] using bracket
    rw [none_ c mem] at h
    cases h

theorem isBracket_of_isCloseBracket {c : Char} (h : isCloseBracket c = true) :
    isBracket c = true := by
  simp only [isCloseBracket, Bool.or_eq_true, beq_iff_eq] at h
  rcases h with rfl | rfl <;> rfl

theorem closerOf_of_isOpenBracket {o : Char} (h : isOpenBracket o = true) :
    ∃ d, closerOf o = some d := by
  simp only [isOpenBracket, Bool.or_eq_true, beq_iff_eq] at h
  rcases h with rfl | rfl
  · exact ⟨'>', rfl⟩
  · exact ⟨'}', rfl⟩

theorem plain_of_isRun {p : Char → Bool} (none_ : ∀ b ∈ brackets, p b = false) {u : List Char}
    (run : IsRun p u) : ∀ c ∈ u, isBracket c = false :=
  fun c mem => isBracket_eq_false none_ (run.2 c mem)

theorem plain_of_isOptionalBlank {b : List Char} (blank : IsOptionalBlank b) :
    ∀ c ∈ b, isBracket c = false := by
  rcases blank with rfl | ⟨c, rfl, isBlank_c⟩
  · simp
  · simpa using isBracket_eq_false (by simp [brackets, isBlank]) isBlank_c

theorem plain_of_isDimension {u : List Char} (dimension : IsDimension u) :
    ∀ c ∈ u, isBracket c = false := by
  have ticked : ∀ {t x : List Char}, (∀ c ∈ t, isBracket c = false) → (x = [] ∨ IsTicked t x) →
      ∀ c ∈ x, isBracket c = false := by
    rintro t x ticks (rfl | ⟨d, rfl, digits⟩)
    · simp
    · simpa [or_imp, forall_and] using ⟨ticks, plain_of_isRun (by simp [brackets]; decide) digits⟩
  obtain ⟨x, y, rfl, hx, hy⟩ := dimension
  simpa [or_imp, forall_and] using ⟨ticked (by simp [isBracket, brackets]) hx,
    ticked (by simp [isBracket, brackets]) hy⟩

def OpensAfterClose (v : List Char) : Prop :=
  ∀ y o z, v = y ++ o :: z → isOpenBracket o = true → ∃ c ∈ y, isCloseBracket c = true

/-- The generic argument lists of a text are not nested: after each opening bracket of one, a
closing bracket comes before the next opening bracket. -/
def NestsNoGeneric (u : List Char) : Prop :=
  ∀ x o v, u = x ++ o :: v → isOpenBracket o = true → OpensAfterClose v

theorem OpensAfterClose.of_append {v w : List Char} (h : OpensAfterClose (v ++ w)) :
    OpensAfterClose v := by
  intro y o z split opens
  exact h y o (z ++ w) (by simp [split]) opens

theorem OpensAfterClose.of_plain_append {a v : List Char} (plain : ∀ c ∈ a, isBracket c = false)
    (h : OpensAfterClose (a ++ v)) : OpensAfterClose v := by
  intro y o z split opens
  obtain ⟨c, mem, closes⟩ := h (a ++ y) o z (by simp [split]) opens
  rcases List.mem_append.1 mem with inA | inY
  · exact absurd (isBracket_of_isCloseBracket closes) (by simp [plain c inA])
  · exact ⟨c, inY, closes⟩

theorem NestsNoGeneric.within {x u z : List Char} (h : NestsNoGeneric (x ++ u ++ z)) :
    NestsNoGeneric u := by
  intro x' o v split opens
  exact (h (x ++ x') o (v ++ z) (by simp [split]) opens).of_append

theorem nestsNoGeneric_of_countP {u : List Char} (single : u.countP isOpenBracket ≤ 1) :
    NestsNoGeneric u := by
  intro x o v split opens y o' z inner opens'
  subst split inner
  simp [List.countP_append, opens, opens'] at single
  omega

theorem plain_of_isArgument {a rest : List Char} (argument : IsArgument a)
    (first : OpensAfterClose (a ++ rest)) : ∀ c ∈ a, isBracket c = false := by
  rcases argument with word | ⟨o, w, c, rfl, opens, -, -, -⟩
  · exact plain_of_isRun (by simp [brackets]; decide) word
  · obtain ⟨c, mem, -⟩ := first [] o (w ++ [c] ++ rest) (by simp) opens
    cases mem

theorem plain_of_isMoreArguments {m rest : List Char} (more : IsMoreArguments m)
    (first : OpensAfterClose (m ++ rest)) : ∀ c ∈ m, isBracket c = false := by
  induction more with
  | nil => simp
  | @cons a u separated _ ih =>
    obtain ⟨b, arg, rfl, blank, argument⟩ := separated
    -- the comma and the blank hold no bracket, so the argument after them is a word
    have lead : ∀ c ∈ ',' :: b, isBracket c = false := by
      simpa using ⟨by decide, plain_of_isOptionalBlank blank⟩
    have afterLead : OpensAfterClose (arg ++ (u ++ rest)) :=
      OpensAfterClose.of_plain_append lead (by simpa using first)
    have word := plain_of_isArgument argument afterLead
    have others := ih (afterLead.of_plain_append word)
    intro c mem
    simp only [List.cons_append, List.append_assoc, List.mem_cons, List.mem_append] at mem
    rcases mem with rfl | inB | inArg | inU
    · decide
    · exact lead c (List.mem_cons_of_mem _ inB)
    · exact word c inArg
    · exact others c inU

theorem keepsOpen_isGeneric {u : List Char} (generic : IsGeneric u) (flat : NestsNoGeneric u) :
    KeepsOpen u := by
  obtain ⟨o, a, m, c, rfl, opens, argument, more, -⟩ := generic
  have first : OpensAfterClose (a ++ (m ++ [c])) := by simpa using flat [] o _ rfl opens
  have word := plain_of_isArgument argument first
  have others := plain_of_isMoreArguments more (first.of_plain_append word)
  obtain ⟨d, closes⟩ := closerOf_of_isOpenBracket opens
  have inner : KeepsOpen (a ++ m) := keepsOpen_of_plain (by simpa [or_imp, forall_and] using ⟨word, others⟩)
  exact keepsOpen_wrap closes (inner.keepsExpected d) c

theorem keepsOpen_isTypeSuffix {u : List Char} (suffix : IsTypeSuffix u) (flat : NestsNoGeneric u) :
    KeepsOpen u := by
  rcases suffix with dimension | generic
  · exact keepsOpen_of_plain (plain_of_isDimension dimension)
  · exact keepsOpen_isGeneric generic flat

theorem keepsOpen_isIndexer {u : List Char} (indexer : IsIndexer u) (flat : NestsNoGeneric u) :
    KeepsOpen u := by
  obtain ⟨w, t, rfl, chars, suffix⟩ := indexer
  have inner : KeepsOpen (w ++ t) :=
    keepsOpen_append (keepsOpen_of_plain (plain_of_isRun (by simp [brackets]; decide) chars))
      (keepsOpen_isTypeSuffix suffix (NestsNoGeneric.within (x := '[' :: w) (z := [']'])
        (by simpa using flat)))
  exact keepsOpen_wrap rfl (inner.keepsExpected ']') ']'

theorem keepsOpen_isMember {shape : Shape} {m : List Char} (member : IsMember shape m)
    (flat : NestsNoGeneric m) : KeepsOpen m := by
  have ofName : ∀ {u : List Char}, IsMemberName u → NestsNoGeneric u → KeepsOpen u := by
    rintro u ⟨n, t, rfl, name, suffix | indexer⟩ flatName
    all_goals
      have flatTail : NestsNoGeneric t :=
        NestsNoGeneric.within (x := n) (z := []) (by simpa using flatName)
      apply keepsOpen_append (keepsOpen_of_plain (plain_of_isRun (by simp [brackets]; decide) name))
    · exact keepsOpen_isTypeSuffix suffix flatTail
    · exact keepsOpen_isIndexer indexer flatTail
  cases shape with
  | container => exact ofName member flat
  | callable => exact ofName member flat
  | constructor =>
    rcases member with rfl | name
    · exact keepsOpen_of_plain (by simp [constructorName, isBracket, brackets])
    · exact ofName name flat

theorem keepsOpen_argumentText {shape : Shape} {g : Option (List Char)}
    (allows : AllowsArguments shape g) : KeepsOpen (argumentText g) := by
  cases g with
  | none => exact keepsOpen_of_plain (by simp [argumentText])
  | some a =>
    have noClose : ')' ∉ a := by
      cases shape with
      | container => exact allows.elim
      | callable => exact allows
      | constructor => exact allows
    exact keepsOpen_wrap rfl (keepsExpected_of_not_mem noClose) ')'

/-- A qualifier read off a balanced line is balanced when the member's generic argument lists
are not nested. -/
theorem readSignature_qualifier_balanced (d : Directive) (shape : Shape)
    (grammar : d.shape? = some shape) (text : String) (sig : Signature)
    (read : d.readSignature text = .ok sig) (balanced : IsBalanced text.toList)
    (flat : NestsNoGeneric sig.member.toList) (p : String) (qualified : sig.qualifier = some p) :
    IsBalanced p.toList := by
  have answer := read_isAnswer shape text
  rw [show Signature.read shape text = .ok sig by simpa [Directive.readSignature, grammar] using read]
    at answer
  obtain ⟨m, g, reading, rfl, -⟩ := answer
  rw [qualified] at reading
  obtain ⟨split, member, allows, -⟩ := reading
  -- the line is the qualifier, a dot, the member, its argument list and perhaps a newline, and
  -- all after the qualifier keeps open what the qualifier left open
  obtain ⟨e, stop, whole⟩ := eq_dropFinalNewline_append text.toList
  have stopPlain : ∀ c ∈ e, isBracket c = false := by
    rcases atEnd_iff.1 stop with rfl | rfl <;> simp [isBracket, brackets]
  have tail : KeepsOpen ('.' :: (sig.member.toList ++ argumentText g ++ e)) :=
    keepsOpen_append (u := ['.']) (keepsOpen_of_plain (by simp [isBracket, brackets]))
      (keepsOpen_append (keepsOpen_append (keepsOpen_isMember member flat)
        (keepsOpen_argumentText allows)) (keepsOpen_of_plain stopPlain))
  apply isBalanced_of_append _ tail
  rw [whole, split] at balanced
  simpa [qualifierText] using balanced

theorem readSignature_qualifier_balanced_at_indexer :
    (Directive.ofKind .prop).readSignature "Ns.Cache<TKey>.Item[System.String]" =
        .ok ⟨some "Ns.Cache<TKey>", "Item[System.String]", none⟩ ∧
      IsBalanced "Ns.Cache<TKey>.Item[System.String]".toList ∧
      NestsNoGeneric "Item[System.String]".toList ∧ IsBalanced "Ns.Cache<TKey>".toList := by
  have read : (Directive.ofKind .prop).readSignature "Ns.Cache<TKey>.Item[System.String]" =
      .ok ⟨some "Ns.Cache<TKey>", "Item[System.String]", none⟩ :=
    eq_ok_of_toOption (by decide +kernel)
  have balanced : IsBalanced "Ns.Cache<TKey>.Item[System.String]".toList := by decide
  have flat : NestsNoGeneric "Item[System.String]".toList := nestsNoGeneric_of_countP (by decide)
  exact ⟨read, balanced, flat,
    readSignature_qualifier_balanced _ .callable rfl _ _ read balanced flat _ rfl⟩

/-- A nested generic argument may close a bracket the qualifier opened: `A<B.C<<D>>>` is
balanced, and a class reads it as the qualifier `A<B`, which is not, and the member `C<<D>>>`. -/
theorem readSignature_qualifier_inside_generic :
    IsBalanced "A<B.C<<D>>>".toList ∧
      (Directive.ofKind .cls).readSignature "A<B.C<<D>>>" = .ok ⟨some "A<B", "C<<D>>>", none⟩ ∧
      ¬ IsBalanced "A<B".toList :=
  ⟨by decide, eq_ok_of_toOption (by decide +kernel), by decide⟩

end NetApiDoc.Signature
