import NetApiDoc.Build.Read

set_option autoImplicit false

namespace NetApiDoc.Reference

open NetApiDoc.Text NetApiDoc.Markup NetApiDoc.Build

def spacedSingly : List Char → Bool
  | [] => true
  | c :: rest =>
    (!isBlank c || c == ' ' && !(rest.head?.any fun d => isBlank d || d == '<')) &&
      spacedSingly rest

/-- A reference written plainly: no escapes, single spaces and none right before `<`, and not
led by `~` or `!`. -/
structure PlainReference (text : List Char) : Prop where
  unescaped : escapeMark ∉ text
  spaced : spacedSingly text = true
  not_tilde : text.head? ≠ some '~'
  not_bang : text.head? ≠ some '!'

def IsSelfGeneric (text name : List Char) : Prop :=
  text = name ++ '<' :: (name ++ ['>']) ∧ name ≠ [] ∧ '<' ∉ name.tail

/-- Where a reference points: at its text as written, or at `X` when the text is `X<X>`. -/
structure TargetsWritten (target : String) (text : List Char) : Prop where
  written : (∀ name, ¬ IsSelfGeneric text name) → target = String.ofList text
  selfTitled : ∀ name, IsSelfGeneric text name → target = String.ofList name

/-! ### Plain text -/

theorem unescape_of_unmarked : ∀ {s : List Char}, escapeMark ∉ s → unescape s = s
  | [], _ => rfl
  | [m], unmarked => by
    have other : (m == escapeMark) = false := by simpa using fun same => unmarked (by simp [same])
    simp [unescape, other]
  | m :: c :: rest, unmarked => by
    simp only [List.mem_cons, not_or] at unmarked
    have other : (m == escapeMark) = false := beq_eq_false_iff_ne.2 (Ne.symm unmarked.1)
    have later : escapeMark ∉ c :: rest := fun mem =>
      (List.mem_cons.1 mem).elim unmarked.2.1 unmarked.2.2
    simp [unescape, other, unescape_of_unmarked later]

theorem spacedSingly_cons {c : Char} {rest : List Char} :
    spacedSingly (c :: rest) = true ↔
      (isBlank c = true → c = ' ' ∧ ∀ d ∈ rest.head?, isBlank d = false ∧ d ≠ '<') ∧
        spacedSingly rest = true := by
  cases rest <;> simp [spacedSingly] <;> cases isBlank c <;> simp

theorem spacedSingly_of_append {u v : List Char} (spaced : spacedSingly (u ++ v) = true) :
    spacedSingly u = true ∧ spacedSingly v = true := by
  induction u with
  | nil => exact ⟨rfl, spaced⟩
  | cons c cs ih =>
    rw [List.cons_append, spacedSingly_cons] at spaced
    refine ⟨spacedSingly_cons.2 ⟨fun blank => ?_, (ih spaced.2).1⟩, (ih spaced.2).2⟩
    obtain ⟨space, next⟩ := spaced.1 blank
    refine ⟨space, fun d first => next d ?_⟩
    cases cs with
    | nil => cases first
    | cons e es => exact first

theorem collapseBlanksAfter_run {rest : List Char} (next : ∀ d ∈ rest.head?, isBlank d = false) :
    collapseBlanksAfter true rest = collapseBlanksAfter false rest := by
  cases rest with
  | nil => rfl
  | cons d ds => simp [collapseBlanksAfter, next d rfl]

theorem collapseBlanks_of_spaced {s : List Char} (spaced : spacedSingly s = true) :
    collapseBlanks s = s := by
  unfold collapseBlanks
  induction s with
  | nil => rfl
  | cons c rest ih =>
    rw [spacedSingly_cons] at spaced
    cases blank : isBlank c with
    | false => simp [collapseBlanksAfter, blank, ih spaced.2]
    | true =>
      -- a single space stays, and the text after it starts a new run of non-blanks
      obtain ⟨rfl, next⟩ := spaced.1 blank
      rw [collapseBlanksAfter, if_pos blank, if_neg (by simp),
        collapseBlanksAfter_run fun d first => (next d first).1, ih spaced.2]

/-! ### The explicit-title split -/

theorem explicitTitleFrom_first (c : Char) (rest : List Char) :
    explicitTitleFrom [] (c :: rest) = explicitTitleFrom [c] rest := by
  rw [explicitTitleFrom.eq_def]

theorem drop_takeWhile_length (p : Char → Bool) :
    ∀ l : List Char, l.drop (l.takeWhile p).length = l.dropWhile p
  | [] => rfl
  | c :: cs => by
    cases h : p c <;> simp [List.takeWhile, List.dropWhile, h, drop_takeWhile_length p cs]

theorem explicitTitleFrom_skip {title : List Char} {c : Char} {rest : List Char}
    (closed : ((c :: rest).dropWhile isBlank).head? ≠ some '<') :
    explicitTitleFrom title (c :: rest) = explicitTitleFrom (c :: title) rest := by
  rw [explicitTitleFrom.eq_def]
  dsimp only
  rw [drop_takeWhile_length]
  split
  · rename_i found opened
    split at opened
    · rename_i inner after
      rw [after] at closed
      exact absurd rfl closed
    · cases opened
  · rfl

theorem explicitTitleFrom_open {title inner : List Char} (named : title ≠ [])
    (unmarked : title.head? ≠ some escapeMark) (closes : inner.getLast? = some '>') :
    explicitTitleFrom title ('<' :: inner) = some (title.reverse, inner.dropLast) := by
  obtain ⟨x, rest, rfl⟩ := List.exists_cons_of_ne_nil named
  have notBlank : isBlank '<' = false := by simp [isBlank]
  simp only [List.head?_cons, ne_eq, Option.some.injEq] at unmarked
  rw [explicitTitleFrom.eq_def]
  simp [notBlank, unmarked, closes]

theorem not_open_of_spaced {c : Char} {rest : List Char} (other : c ≠ '<')
    (spaced : spacedSingly (c :: rest) = true) :
    ((c :: rest).dropWhile isBlank).head? ≠ some '<' := by
  rw [spacedSingly_cons] at spaced
  cases blank : isBlank c with
  | false => simp [blank, other]
  | true =>
    obtain ⟨-, next⟩ := spaced.1 blank
    cases rest with
    | nil => simp [blank]
    | cons d ds =>
      obtain ⟨notBlank, notOpen⟩ := next d rfl
      simp [blank, notBlank, notOpen]

theorem explicitTitleFrom_append {title u s : List Char} (noOpen : '<' ∉ u)
    (spaced : spacedSingly (u ++ s) = true) :
    explicitTitleFrom title (u ++ s) = explicitTitleFrom (u.reverse ++ title) s := by
  induction u generalizing title with
  | nil => rfl
  | cons c cs ih =>
    simp only [List.mem_cons, not_or] at noOpen
    rw [List.cons_append] at spaced
    rw [List.cons_append, explicitTitleFrom_skip (not_open_of_spaced (Ne.symm noOpen.1) spaced),
      ih noOpen.2 (spacedSingly_cons.1 spaced).2]
    simp

theorem explicitTitle_of_first_open {text name target : List Char}
    (unmarked : escapeMark ∉ text) (spaced : spacedSingly text = true)
    (split : text = name ++ '<' :: (target ++ ['>'])) (named : name ≠ [])
    (first : '<' ∉ name.tail) : explicitTitle text = some (name, target) := by
  obtain ⟨c, rest, rfl⟩ := List.exists_cons_of_ne_nil named
  subst split
  have spacedRest : spacedSingly (rest ++ '<' :: (target ++ ['>'])) = true :=
    (spacedSingly_cons.1 (by simpa using spaced)).2
  have lastUnmarked : ((c :: rest).reverse).head? ≠ some escapeMark := by
    rw [List.head?_reverse]
    intro marked
    exact unmarked (List.mem_append_left _ (List.mem_of_getLast? marked))
  rw [explicitTitle, List.cons_append, explicitTitleFrom_first,
    explicitTitleFrom_append (by simpa using first) spacedRest,
    show rest.reverse ++ [c] = (c :: rest).reverse by simp,
    explicitTitleFrom_open (by simp) lastUnmarked (by simp)]
  simp

theorem explicitTitleFrom_sound {title s name target : List Char}
    (found : explicitTitleFrom title s = some (name, target)) :
    ∃ u blanks, s = u ++ blanks ++ '<' :: (target ++ ['>']) ∧ name = title.reverse ++ u ∧
      name ≠ [] ∧ ∀ c ∈ blanks, isBlank c = true := by
  induction s generalizing title with
  | nil =>
    rw [explicitTitleFrom.eq_def] at found
    cases found
  | cons c rest ih =>
    rw [explicitTitleFrom.eq_def] at found
    dsimp only at found
    split at found
    · -- found here: the title so far, the blanks before `<`, and the target
      rename_i opened
      rw [drop_takeWhile_length] at opened
      split at opened
      · rename_i inner after
        obtain ⟨opens, same⟩ := Option.ite_none_right_eq_some.1 opened
        have closes : inner.getLast? = some '>' := by
          simp only [Bool.and_eq_true, beq_iff_eq] at opens
          exact opens.2
        obtain ⟨target', rfl⟩ := List.getLast?_eq_some_iff.1 closes
        cases same
        cases found
        have whole := List.takeWhile_append_dropWhile (p := isBlank) (l := c :: rest)
        rw [after] at whole
        refine ⟨[], (c :: rest).takeWhile isBlank, by simpa using whole.symm, by simp, by simp, ?_⟩
        exact List.all_eq_true.1 List.all_takeWhile
      · cases opened
    · obtain ⟨u, blanks, rfl, rfl, named, blank⟩ := ih found
      exact ⟨c :: u, blanks, by simp, by simp, named, blank⟩

theorem blanks_eq_nil_of_spaced {u blanks v : List Char}
    (spaced : spacedSingly (u ++ blanks ++ '<' :: v) = true)
    (blank : ∀ c ∈ blanks, isBlank c = true) : blanks = [] := by
  rcases List.eq_nil_or_concat blanks with none | ⟨bs, b, rfl⟩
  · exact none
  · have tail := (spacedSingly_of_append (u := u ++ bs) (v := b :: '<' :: v)
      (by simpa using spaced)).2
    obtain ⟨-, next⟩ := (spacedSingly_cons.1 tail).1 (blank b (by simp))
    exact absurd rfl (next '<' rfl).2

theorem explicitTitle_eq_some_iff {text name target : List Char}
    (unmarked : escapeMark ∉ text) (spaced : spacedSingly text = true) :
    explicitTitle text = some (name, target) ↔
      text = name ++ '<' :: (target ++ ['>']) ∧ name ≠ [] ∧ '<' ∉ name.tail := by
  constructor
  · intro found
    obtain ⟨_, blanks, split, rfl, named, blank⟩ := explicitTitleFrom_sound found
    obtain rfl := blanks_eq_nil_of_spaced (split ▸ spaced) blank
    rw [List.append_nil] at split
    refine ⟨split, named, fun inTail => ?_⟩
    -- a `<` inside the title would have been the split
    obtain ⟨c, rest, rfl⟩ := List.exists_cons_of_ne_nil named
    obtain ⟨front, back, rfl, firstOpen⟩ := List.eq_append_cons_of_mem inTail
    have earlier := @explicitTitle_of_first_open _ (c :: front) (back ++ '<' :: target)
      unmarked spaced (by rw [split]; simp) (by simp) (by simpa using firstOpen)
    rw [found] at earlier
    have := congrArg List.length (Prod.mk.inj (Option.some.inj earlier)).1
    simp at this
  · rintro ⟨split, named, first⟩
    exact explicitTitle_of_first_open unmarked spaced split named first

/-! ### Where a reference points -/

theorem isSelfGeneric_iff {text name : List Char} (plain : PlainReference text) :
    IsSelfGeneric text name ↔ explicitTitle text = some (name, name) :=
  (explicitTitle_eq_some_iff plain.unescaped plain.spaced).symm

theorem spacedSingly_target {title target : List Char}
    (spaced : spacedSingly (title ++ '<' :: (target ++ ['>'])) = true) :
    spacedSingly target = true :=
  (spacedSingly_of_append (spacedSingly_cons.1 (spacedSingly_of_append spaced).2).2).1

theorem dropWhile_tilde {s : List Char} (notTilde : s.head? ≠ some '~') :
    s.dropWhile (· == '~') = s := by
  cases s with
  | nil => rfl
  | cons c rest =>
    have other : (c == '~') = false := by simpa using notTilde
    simp [List.dropWhile, other]

theorem ofRole_implicit_target {text : List Char} (spaced : spacedSingly text = true)
    (notTilde : text.head? ≠ some '~') :
    (Link.ofRole false (String.ofList text) (String.ofList text)).target = String.ofList text := by
  simp [Link.ofRole, collapseBlanks_of_spaced spaced, dropWhile_tilde notTilde]

theorem ofRole_explicit_target {title target : List Char} (spaced : spacedSingly target = true) :
    (Link.ofRole true (String.ofList title) (String.ofList target)).target =
      if title = target then String.ofList target
      else String.ofList (title ++ '<' :: (target ++ ['>'])) := by
  by_cases same : title = target
  · subst same
    simp [Link.ofRole, collapseBlanks_of_spaced spaced]
  · simp only [Link.ofRole, String.toList_ofList, collapseBlanks_of_spaced spaced, if_true,
      beq_iff_eq, String.ofList_inj, same, if_false]
    rw [← String.toList_inj]
    simp

theorem targetsWritten_of_no_split {text : List Char} (plain : PlainReference text)
    (found : explicitTitle text = none) :
    TargetsWritten (Link.ofRole false (String.ofList text) (String.ofList text)).target text := by
  rw [ofRole_implicit_target plain.spaced plain.not_tilde]
  refine ⟨fun _ => rfl, fun name self => ?_⟩
  rw [isSelfGeneric_iff plain, found] at self
  cases self

theorem targetsWritten_of_split {text title target : List Char} (plain : PlainReference text)
    (found : explicitTitle text = some (title, target)) :
    TargetsWritten (Link.ofRole true (String.ofList title) (String.ofList target)).target text := by
  obtain ⟨split, named, first⟩ := (explicitTitle_eq_some_iff plain.unescaped plain.spaced).1 found
  rw [ofRole_explicit_target (spacedSingly_target (split ▸ plain.spaced)), ← split]
  -- any `X<X>` reading of the text is this split
  have selfSplit : ∀ name, IsSelfGeneric text name → title = name ∧ target = name := by
    intro name self
    rw [isSelfGeneric_iff plain, found] at self
    simpa using self
  by_cases same : title = target
  · -- title and target agree: the reference looks for the title alone
    subst same
    rw [if_pos rfl]
    refine ⟨fun none => absurd ⟨split, named, first⟩ (none title), fun name self => ?_⟩
    rw [(selfSplit name self).1]
  · -- they differ and are joined back into the text
    rw [if_neg same]
    refine ⟨fun _ => rfl, fun name self => ?_⟩
    obtain ⟨rfl, rfl⟩ := selfSplit name self
    exact absurd rfl same

/-- A plainly written reference of a .NET role reaches the lookup as it is written, except that
`X<X>` looks for `X`. -/
theorem roleDraft_targets_written (use : RoleUse) (role : String) (context : Option String)
    (line : Nat) (text : List Char) (plain : PlainReference text) :
    ∃ x, roleDraft use (.domain role) context line text = .reference x ∧
      TargetsWritten x.target text := by
  unfold roleDraft
  split
  · exact absurd rfl plain.not_bang
  · refine ⟨_, rfl, ?_⟩
    -- a plain text has no escapes, so title and target are read as written
    cases found : explicitTitle text with
    | none =>
      dsimp only
      rw [unescape_of_unmarked plain.unescaped]
      exact targetsWritten_of_no_split plain found
    | some parts =>
      obtain ⟨title, target⟩ := parts
      obtain ⟨split, -, -⟩ := (explicitTitle_eq_some_iff plain.unescaped plain.spaced).1 found
      have titleUnmarked : escapeMark ∉ title := fun mem =>
        plain.unescaped (by rw [split]; simp [mem])
      have targetUnmarked : escapeMark ∉ target := fun mem =>
        plain.unescaped (by rw [split]; simp [mem])
      dsimp only
      rw [unescape_of_unmarked titleUnmarked, unescape_of_unmarked targetUnmarked]
      exact targetsWritten_of_split plain found

theorem roleDraft_targets_written_nested :
    PlainReference "Dict<List<T>, T>".toList ∧
      ∃ x, roleDraft (.domain "class") (.domain "class") none 1 "Dict<List<T>, T>".toList =
        .reference x ∧ x.target = "Dict<List<T>, T>" := by
  have plain : PlainReference "Dict<List<T>, T>".toList :=
    ⟨by decide, by decide, by decide, by decide⟩
  obtain ⟨x, drafted, targets⟩ := roleDraft_targets_written (.domain "class") "class" none 1 _ plain
  have split : explicitTitle "Dict<List<T>, T>".toList = some ("Dict".toList, "List<T>, T".toList) :=
    by decide
  -- the title `Dict` is not the target, so the text is not of the form `X<X>`
  have noSelf : ∀ name, ¬ IsSelfGeneric "Dict<List<T>, T>".toList name := by
    intro name self
    rw [isSelfGeneric_iff plain, split] at self
    simp only [Option.some.injEq, Prod.mk.injEq] at self
    exact absurd (self.1.trans self.2.symm) (by decide)
  refine ⟨plain, x, drafted, ?_⟩
  rw [targets.written noSelf, String.ofList_toList]

/-- In `A<A>` title and target agree, so the reference looks for `A`, not for `A<A>`. -/
theorem roleDraft_self_generic_targets_title :
    PlainReference "A<A>".toList ∧
      ∃ x, roleDraft (.domain "class") (.domain "class") none 1 "A<A>".toList = .reference x ∧
        x.target = "A" :=
  ⟨⟨by decide, by decide, by decide, by decide⟩, _, rfl, by decide⟩

end NetApiDoc.Reference
