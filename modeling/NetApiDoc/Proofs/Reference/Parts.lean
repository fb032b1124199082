import NetApiDoc.Reference.Split

set_option autoImplicit false

namespace NetApiDoc.Reference

theorem beforeCloseAtEnd?_closed (close : Char) (i : List Char) :
    beforeCloseAtEnd? close (i ++ [close]) = some i := by
  simp [beforeCloseAtEnd?]

theorem eq_of_beforeCloseAtEnd? {close : Char} {t i : List Char} (nl : '\n' ∉ t)
    (h : beforeCloseAtEnd? close t = some i) : t = i ++ [close] := by
  unfold beforeCloseAtEnd? at h
  split at h
  · next last =>
    cases h
    obtain ⟨ys, rfl⟩ := List.getLast?_eq_some_iff.1 (by simpa using last)
    simp
  · split at h
    · next last =>
      have : '\n' ∈ t := List.mem_of_getLast? (by simpa using (Bool.and_eq_true_iff.1 last).1)
      exact absurd this nl
    · cases h

theorem closedAtEnd?_eq_some_iff {close : Char} {t i : List Char} (nl : '\n' ∉ t) :
    closedAtEnd? close t = some i ↔ t = i ++ [close] ∧ i ≠ [] := by
  constructor
  · intro h
    unfold closedAtEnd? at h
    split at h
    · next i' before =>
      split at h
      · cases h
      · next kept =>
        cases h
        simp only [Bool.or_eq_true, not_or, List.isEmpty_iff] at kept
        exact ⟨eq_of_beforeCloseAtEnd? nl before, kept.1⟩
    · cases h
  · rintro ⟨rfl, ne⟩
    have nl' : '\n' ∉ i := fun m => nl (List.mem_append_left _ m)
    simp [closedAtEnd?, beforeCloseAtEnd?_closed, ne, nl']

def WrappedAt (opening closing : Char) (s outer inner : List Char) : Prop :=
  s = outer ++ opening :: inner ++ [closing] ∧ outer ≠ [] ∧ '{' ∉ outer ∧ inner ≠ []

theorem takeWhile_ne_append {c : Char} {p rest : List Char} (free : c ∉ p) :
    (p ++ c :: rest).takeWhile (· != c) = p := by
  rw [List.takeWhile_append_of_pos
    (by rintro a m; simpa using fun same : a = c => free (same ▸ m))]
  simp

theorem dropWhile_ne_append {c : Char} {p rest : List Char} (free : c ∉ p) :
    (p ++ c :: rest).dropWhile (· != c) = c :: rest := by
  rw [List.dropWhile_append_of_pos
    (by rintro a m; simpa using fun same : a = c => free (same ▸ m))]
  simp

theorem nestedSplit?_eq_some_iff {s parent inner : List Char} (nl : '\n' ∉ s) :
    nestedSplit? s = some (parent, inner) ↔ WrappedAt '{' '}' s parent inner := by
  constructor
  · intro h
    unfold nestedSplit? at h
    split at h
    · next x t dropped =>
      split at h
      · cases h
      · next nonempty =>
        obtain ⟨i, closed, same⟩ := Option.map_eq_some_iff.1 h
        cases same
        -- the text splits at its first `{`: before it the parent, after it the rest
        have whole := (List.takeWhile_append_dropWhile (p := (· != '{')) (l := s)).symm
        have opening : x = '{' := by
          have := List.head?_dropWhile_not (· != '{') s
          rw [dropped] at this
          simpa using this
        have nl' : '\n' ∉ t := fun m =>
          nl ((List.dropWhile_suffix _).subset (by rw [dropped]; exact List.mem_cons_of_mem _ m))
        obtain ⟨rfl, inner_ne⟩ := (closedAtEnd?_eq_some_iff nl').1 closed
        refine ⟨?_, by simpa using nonempty, fun m => ?_, inner_ne⟩
        · rw [dropped, opening] at whole
          simpa using whole
        · have := List.all_eq_true.1 (List.all_takeWhile (p := (· != '{')) (l := s)) _ m
          simp at this
    · cases h
  · rintro ⟨rfl, outer_ne, free, inner_ne⟩
    have nl' : '\n' ∉ inner ++ ['}'] := fun m => nl (by simp_all)
    simp only [nestedSplit?, List.append_assoc, List.cons_append, dropWhile_ne_append free,
      takeWhile_ne_append free, (closedAtEnd?_eq_some_iff nl').2 ⟨rfl, inner_ne⟩]
    simp [outer_ne]

theorem nestedSplit?_eq_none_iff {s : List Char} (nl : '\n' ∉ s) :
    nestedSplit? s = none ↔ ∀ parent inner, ¬ WrappedAt '{' '}' s parent inner := by
  constructor
  · intro h parent inner wrapped
    rw [(nestedSplit?_eq_some_iff nl).2 wrapped] at h
    cases h
  · intro never
    cases found : nestedSplit? s with
    | none => rfl
    | some split => exact absurd ((nestedSplit?_eq_some_iff nl).1 found) (never _ _)

theorem append_cons_eq_append_cons {o c : Char} {X rest seen cs : List Char}
    (h : seen ++ c :: cs = X ++ o :: rest) (long : seen.length ≤ X.length) :
    (X = seen ∧ c = o ∧ cs = rest) ∨
      ∃ X', X = seen ++ c :: X' ∧ cs = X' ++ o :: rest := by
  rcases List.append_eq_append_iff.1 h with ⟨bs, hX, hrest⟩ | ⟨as, hseen, hrest⟩
  · cases bs with
    | nil =>
      simp only [List.append_nil, List.nil_append, List.cons.injEq] at hX hrest
      exact .inl ⟨hX, hrest⟩
    | cons d bs =>
      simp only [List.cons_append, List.cons.injEq] at hrest
      obtain ⟨rfl, rfl⟩ := hrest
      exact .inr ⟨bs, hX, rfl⟩
  · -- `X` is no shorter than `seen`, so it cannot end inside it
    have : as = [] := by
      have := congrArg List.length hseen
      simp only [List.length_append] at this
      exact List.eq_nil_of_length_eq_zero (by omega)
    subst this
    simp only [List.append_nil, List.nil_append, List.cons.injEq] at hseen hrest
    exact .inl ⟨hseen.symm, hrest.1.symm, hrest.2.symm⟩

def FirstAliasFrom (k : Nat) (s name target : List Char) : Prop :=
  WrappedAt '<' '>' s name target ∧
    ∀ X Y, WrappedAt '<' '>' s X Y → k ≤ X.length → name.length ≤ X.length

def NoAliasFrom (k : Nat) (s : List Char) : Prop :=
  ∀ X Y, WrappedAt '<' '>' s X Y → X.length < k

theorem aliasName_at_or_past {seen cs X Y : List Char} {c : Char} (nl : '\n' ∉ cs)
    (w : WrappedAt '<' '>' (seen.reverse ++ c :: cs) X Y) (long : seen.length ≤ X.length) :
    (X = seen.reverse ∧ c = '<' ∧ closedAtEnd? '>' cs = some Y) ∨
      (c ≠ '{' ∧ seen.length < X.length) := by
  obtain ⟨whole, -, free, target_ne⟩ := w
  rw [List.append_assoc, List.cons_append] at whole
  rcases append_cons_eq_append_cons whole (by simpa using long) with
    ⟨rfl, rfl, rfl⟩ | ⟨X', rfl, -⟩
  · exact .inl ⟨rfl, rfl, (closedAtEnd?_eq_some_iff nl).2 ⟨rfl, target_ne⟩⟩
  · refine .inr ⟨fun open_ => free (by simp [open_]), by simp⟩

theorem aliasName_past {seen cs X Y : List Char} {c : Char} (nl : '\n' ∉ cs)
    (goesOn : ¬ (c = '<' ∧ seen ≠ [] ∧ (closedAtEnd? '>' cs).isSome))
    (w : WrappedAt '<' '>' (seen.reverse ++ c :: cs) X Y) (long : seen.length ≤ X.length) :
    c ≠ '{' ∧ seen.length < X.length := by
  rcases aliasName_at_or_past nl w long with ⟨rfl, rfl, closed⟩ | past
  · exact absurd ⟨rfl, by simpa using w.2.1, by simp [closed]⟩ goesOn
  · exact past

theorem firstAlias_step {seen cs n a : List Char} {c : Char} (nl : '\n' ∉ cs)
    (goesOn : ¬ (c = '<' ∧ seen ≠ [] ∧ (closedAtEnd? '>' cs).isSome))
    (found : FirstAliasFrom (seen.length + 1) (seen.reverse ++ c :: cs) n a) :
    FirstAliasFrom seen.length (seen.reverse ++ c :: cs) n a :=
  ⟨found.1, fun X Y w long => found.2 X Y w (aliasName_past nl goesOn w long).2⟩

theorem noAlias_step {seen cs : List Char} {c : Char} (nl : '\n' ∉ cs)
    (goesOn : ¬ (c = '<' ∧ seen ≠ [] ∧ (closedAtEnd? '>' cs).isSome))
    (none_ : NoAliasFrom (seen.length + 1) (seen.reverse ++ c :: cs)) :
    NoAliasFrom seen.length (seen.reverse ++ c :: cs) := by
  intro X Y w
  have shorter := none_ X Y w
  rcases Nat.lt_or_ge X.length seen.length with short | long
  · exact short
  · have := (aliasName_past nl goesOn w long).2
    omega

theorem braceFree_cons {c : Char} {seen : List Char} (notOpen : ¬(c == '{') = true)
    (free : '{' ∉ seen) : '{' ∉ c :: seen := by
  simp only [List.mem_cons, not_or]
  exact ⟨fun same => notOpen (by simp [← same]), free⟩

theorem reverse_cons_append (c : Char) (seen cs : List Char) :
    (c :: seen).reverse ++ cs = seen.reverse ++ c :: cs := by
  simp

theorem firstAlias_of_aliasSplitAfter (seen cs : List Char) :
    '\n' ∉ cs → '{' ∉ seen → ∀ {n a}, aliasSplitAfter seen cs = some (n, a) →
      FirstAliasFrom seen.length (seen.reverse ++ cs) n a := by
  fun_induction aliasSplitAfter seen cs with
  | case1 => simp
  | case2 => simp
  | case3 seen c cs _ aliased a closed =>
    -- the reader stops at a `<` after a nonempty name, the rest closing with `>`
    intro nl free n a' found
    cases found
    simp only [Bool.and_eq_true, beq_iff_eq, Bool.not_eq_true', List.isEmpty_eq_false_iff]
      at aliased
    obtain ⟨rfl, seen_ne⟩ := aliased
    obtain ⟨rfl, a_ne⟩ := (closedAtEnd?_eq_some_iff (List.not_mem_of_not_mem_cons nl)).1 closed
    exact ⟨⟨by simp, by simpa using seen_ne, by simpa using free, a_ne⟩,
      fun _ _ _ long => by simpa using long⟩
  | case4 seen c cs notOpen aliased unclosed ih =>
    intro nl free n a found
    have nl' := List.not_mem_of_not_mem_cons nl
    have later := ih nl' (braceFree_cons notOpen free) found
    rw [reverse_cons_append, List.length_cons] at later
    exact firstAlias_step nl' (by simp [unclosed]) later
  | case5 seen c cs notOpen aliased ih =>
    intro nl free n a found
    have nl' := List.not_mem_of_not_mem_cons nl
    have later := ih nl' (braceFree_cons notOpen free) found
    rw [reverse_cons_append, List.length_cons] at later
    exact firstAlias_step nl' (by simp_all) later

theorem noAlias_of_aliasSplitAfter (seen cs : List Char) :
    '\n' ∉ cs → '{' ∉ seen → aliasSplitAfter seen cs = none →
      NoAliasFrom seen.length (seen.reverse ++ cs) := by
  fun_induction aliasSplitAfter seen cs with
  | case1 seen =>
    intro _ _ _ X Y w
    have := congrArg List.length w.1
    simp at this
    omega
  | case2 seen c cs isOpen =>
    -- a `{` ends every name, so a reading has ended before it
    intro nl _ _ X Y w
    rcases Nat.lt_or_ge X.length seen.length with short | long
    · exact short
    · have := (aliasName_past (List.not_mem_of_not_mem_cons nl) (by simp_all) w long).1
      simp_all
  | case3 => simp
  | case4 seen c cs notOpen aliased unclosed ih =>
    intro nl free none_
    have nl' := List.not_mem_of_not_mem_cons nl
    have later := ih nl' (braceFree_cons notOpen free) none_
    rw [reverse_cons_append, List.length_cons] at later
    exact noAlias_step nl' (by simp [unclosed]) later
  | case5 seen c cs notOpen aliased ih =>
    intro nl free none_
    have nl' := List.not_mem_of_not_mem_cons nl
    have later := ih nl' (braceFree_cons notOpen free) none_
    rw [reverse_cons_append, List.length_cons] at later
    exact noAlias_step nl' (by simp_all) later

def RefPart.chars (p : RefPart) : List Char :=
  match p.target with
  | some t => p.name.toList ++ '<' :: t.toList ++ ['>']
  | none => p.name.toList

def joinParts : List RefPart → List Char
  | [] => []
  | [p] => p.chars
  | p :: ps => p.chars ++ '{' :: joinParts ps ++ ['}']

def FirstAliasAt (s name target : List Char) : Prop :=
  WrappedAt '<' '>' s name target ∧ ∀ X Y, WrappedAt '<' '>' s X Y → name.length ≤ X.length

def RefPart.ReadFrom (p : RefPart) (s : List Char) : Prop :=
  p.chars = s ∧ (p.target.isSome ↔ ∃ X Y, WrappedAt '<' '>' s X Y) ∧
    ∀ a, p.target = some a → FirstAliasAt s p.name.toList a.toList

theorem RefPart.readFrom_ofChars {s : List Char} (nl : '\n' ∉ s) :
    (RefPart.ofChars s).ReadFrom s := by
  unfold RefPart.ofChars
  split
  · next n a found =>
    obtain ⟨w, shortest⟩ := firstAlias_of_aliasSplitAfter [] s nl (by simp) found
    simp only [List.reverse_nil, List.nil_append] at w shortest
    refine ⟨?_, ⟨fun _ => ⟨n, a, w⟩, fun _ => rfl⟩, ?_⟩
    · simp [RefPart.chars, w.1]
    · rintro _ ⟨⟩
      simpa using ⟨w, fun X Y w' => shortest X Y w' (Nat.zero_le _)⟩
  · next none_ =>
    have never := noAlias_of_aliasSplitAfter [] s nl (by simp) (by simpa using none_)
    refine ⟨by simp [RefPart.chars], ⟨fun h => by simp at h, ?_⟩, by simp⟩
    rintro ⟨X, Y, w⟩
    simpa using never X Y (by simpa using w)

theorem splitRefs_ne_nil (s : List Char) : splitRefs s ≠ [] := by
  fun_induction splitRefs s <;> simp

theorem not_mem_inner {c : Char} {s parent inner : List Char}
    (nl : c ∉ s) (w : WrappedAt '{' '}' s parent inner) : c ∉ parent ∧ c ∉ inner := by
  rw [w.1] at nl
  simp only [List.mem_append, List.mem_cons, not_or] at nl
  exact ⟨nl.1.1, nl.1.2.2⟩

theorem joinParts_splitRefs {s : List Char} (nl : '\n' ∉ s) : joinParts (splitRefs s) = s := by
  fun_induction splitRefs s with
  | case1 s parent inner split _ ih =>
    have w := (nestedSplit?_eq_some_iff nl).1 split
    have nl' := not_mem_inner nl w
    obtain ⟨p, ps, same⟩ := List.exists_cons_of_ne_nil (splitRefs_ne_nil inner)
    rw [same] at ih ⊢
    simp only [joinParts, (RefPart.readFrom_ofChars nl'.1).1, ih nl'.2, w.1]
  | case2 s _ => exact (RefPart.readFrom_ofChars nl).1

theorem parents_of_splitRefs {s : List Char} (nl : '\n' ∉ s) :
    ∀ p ∈ (splitRefs s).dropLast, p.chars ≠ [] ∧ '{' ∉ p.chars := by
  fun_induction splitRefs s with
  | case1 s parent inner split _ ih =>
    have w := (nestedSplit?_eq_some_iff nl).1 split
    have nl' := not_mem_inner nl w
    obtain ⟨q, qs, same⟩ := List.exists_cons_of_ne_nil (splitRefs_ne_nil inner)
    rw [same] at ih ⊢
    intro p mem
    rw [List.dropLast_cons_cons, List.mem_cons] at mem
    rcases mem with rfl | later
    · rw [(RefPart.readFrom_ofChars nl'.1).1]
      exact ⟨w.2.1, w.2.2.1⟩
    · exact ih nl'.2 p later
  | case2 => simp

theorem last_of_splitRefs {s : List Char} (nl : '\n' ∉ s) :
    ∀ p, (splitRefs s).getLast? = some p →
      ∀ parent inner, ¬ WrappedAt '{' '}' p.chars parent inner := by
  fun_induction splitRefs s with
  | case1 s parent inner split _ ih =>
    have nl' := not_mem_inner nl ((nestedSplit?_eq_some_iff nl).1 split)
    obtain ⟨q, qs, same⟩ := List.exists_cons_of_ne_nil (splitRefs_ne_nil inner)
    rw [same] at ih ⊢
    intro p last
    rw [List.getLast?_cons_cons] at last
    exact ih nl'.2 p last
  | case2 s unsplit =>
    intro p last
    rw [List.getLast?_singleton, Option.some_inj] at last
    rw [← last, (RefPart.readFrom_ofChars nl).1]
    exact (nestedSplit?_eq_none_iff nl).1 unsplit

theorem readFrom_of_splitRefs {s : List Char} (nl : '\n' ∉ s) :
    ∀ p ∈ splitRefs s, p.ReadFrom p.chars := by
  fun_induction splitRefs s with
  | case1 s parent inner split _ ih =>
    have nl' := not_mem_inner nl ((nestedSplit?_eq_some_iff nl).1 split)
    intro p mem
    rcases List.mem_cons.1 mem with rfl | later
    · have read := RefPart.readFrom_ofChars nl'.1
      rwa [read.1]
    · exact ih nl'.2 p later
  | case2 s _ =>
    intro p mem
    rw [List.mem_singleton.1 mem]
    have read := RefPart.readFrom_ofChars nl
    rwa [read.1]

/-- `parts` split `s` exactly and fully: they join back to `s`; every part but the last is a
nonempty text free of `{`; the last one does not read `parent{inner}`; and a part has a target
exactly when it reads `X<Y>`, its name then being the shortest such `X`. -/
structure SplitsExactly (s : List Char) (parts : List RefPart) : Prop where
  ne_nil : parts ≠ []
  join : joinParts parts = s
  parents : ∀ p ∈ parts.dropLast, p.chars ≠ [] ∧ '{' ∉ p.chars
  last : ∀ p, parts.getLast? = some p →
    ∀ parent inner, ¬ WrappedAt '{' '}' p.chars parent inner
  aliases : ∀ p ∈ parts, (p.target.isSome ↔ ∃ X Y, WrappedAt '<' '>' p.chars X Y) ∧
    ∀ a, p.target = some a → FirstAliasAt p.chars p.name.toList a.toList

/-- Splitting a target of one line undoes its nesting exactly and fully. -/
theorem split_splits_exactly (T : String) (nl : '\n' ∉ T.toList) :
    SplitsExactly T.toList (split T) where
  ne_nil := splitRefs_ne_nil _
  join := joinParts_splitRefs nl
  parents := parents_of_splitRefs nl
  last := last_of_splitRefs nl
  aliases p mem := (readFrom_of_splitRefs nl p mem).2

theorem split_splits_exactly_at_nested_generic :
    '\n' ∉ "Map<K>\x7bList<T>\x7bString\x7d\x7d".toList ∧
      SplitsExactly "Map<K>\x7bList<T>\x7bString\x7d\x7d".toList
        (split "Map<K>\x7bList<T>\x7bString\x7d\x7d") :=
  ⟨by decide, split_splits_exactly _ (by decide)⟩

end NetApiDoc.Reference
