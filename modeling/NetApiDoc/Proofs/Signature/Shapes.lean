import NetApiDoc.Proofs.Signature.Reading

set_option autoImplicit false

namespace NetApiDoc.Signature

/-! ### Containers and callables -/

theorem inLanguage_callable_iff_container {r : List Char} (unclosed : r.getLast? ≠ some ')') :
    InLanguage .callable r ↔ InLanguage .container r := by
  constructor
  · rintro ⟨m, g, rfl, member, -⟩
    -- an argument list would end the text in `)`
    have noArguments : g = none := by
      cases g with
      | none => rfl
      | some a => exact absurd ((getLast_member_arguments member).2.2 rfl) unclosed
    subst noArguments
    exact ⟨m, none, rfl, member, trivial⟩
  · rintro ⟨m, g, rfl, member, allows⟩
    cases g with
    | none => exact ⟨m, none, rfl, member, trivial⟩
    | some a => exact absurd allows id

theorem isQualifier_callable_iff_container {s p : List Char} (unclosed : s.getLast? ≠ some ')') :
    IsQualifier .callable s p ↔ IsQualifier .container s p := by
  have rest : ∀ r, s = p ++ '.' :: r → r.getLast? ≠ some ')' := by
    intro r split last
    apply unclosed
    rw [split, show p ++ '.' :: r = (p ++ ['.']) ++ r by simp, List.getLast?_append, last]
    rfl
  constructor
  · rintro ⟨r, split, nonempty, clean, reads⟩
    exact ⟨r, split, nonempty, clean,
      (inLanguage_callable_iff_container (rest r split)).1 reads⟩
  · rintro ⟨r, split, nonempty, clean, reads⟩
    exact ⟨r, split, nonempty, clean,
      (inLanguage_callable_iff_container (rest r split)).2 reads⟩

theorem isReading_unique {shape shape' : Shape} {s : List Char} {q q' : Option (List Char)}
    {m m' : List Char} (same : ∀ p, IsQualifier shape s p ↔ IsQualifier shape' s p)
    (reading : IsReading shape s q m none) (reading' : IsReading shape' s q' m' none) :
    q = q' ∧ m = m' := by
  cases q with
  | none =>
    cases q' with
    | none =>
      -- without a qualifier the member is the whole line
      have whole : m = m' := by
        rw [← List.append_nil m, ← List.append_nil m']
        simpa [qualifierText, argumentText] using reading.1.symm.trans reading'.1
      exact ⟨rfl, whole⟩
    | some p' => exact absurd ((same p').2 (isReading_qualified reading')) (reading.2.2.2 p')
  | some p =>
    cases q' with
    | none => exact absurd ((same p).1 (isReading_qualified reading)) (reading'.2.2.2 p)
    | some p' =>
      -- each qualifier is at least as long as the other, and both start the line
      have longest : p.length ≤ p'.length :=
        reading'.2.2.2.2.2 p ((same p).1 (isReading_qualified reading))
      have longest' : p'.length ≤ p.length :=
        reading.2.2.2.2.2 p' ((same p').2 (isReading_qualified reading'))
      have spelled : (p ++ ['.']) ++ m = (p' ++ ['.']) ++ m' := by
        simpa [qualifierText, argumentText] using reading.1.symm.trans reading'.1
      obtain ⟨qualifiers, members⟩ := List.append_inj spelled (by simp; omega)
      exact ⟨by rw [List.append_cancel_right qualifiers], members⟩

theorem readLine_container_arguments {s : List Char} {q : Option (List Char)} {m : List Char}
    {g : Option (List Char)} (h : readLine .container s = some (q, m, g)) : g = none := by
  have allows := (readLine_isReading h).2.2.1
  cases g with
  | none => rfl
  | some a => exact absurd allows id

theorem readLine_container_eq_callable {s : List Char}
    (unclosed : (dropFinalNewline s).getLast? ≠ some ')') :
    readLine .container s = readLine .callable s := by
  have same := fun p => (isQualifier_callable_iff_container (p := p) unclosed).symm
  have language := (inLanguage_callable_iff_container unclosed).symm
  cases container : readLine .container s with
  | none =>
    obtain ⟨noQualifier, notLanguage⟩ := readLine_eq_none_iff.1 container
    exact (readLine_eq_none_iff.2 ⟨fun p => (not_congr (same p)).1 (noQualifier p),
      fun reads => notLanguage (language.2 reads)⟩).symm
  | some x =>
    obtain ⟨q, m, g⟩ := x
    cases callable : readLine .callable s with
    | none =>
      obtain ⟨noQualifier, notLanguage⟩ := readLine_eq_none_iff.1 callable
      rw [readLine_eq_none_iff.2 ⟨fun p => (not_congr (same p)).2 (noQualifier p),
        fun reads => notLanguage (language.1 reads)⟩] at container
      cases container
    | some y =>
      obtain ⟨q', m', g'⟩ := y
      have reading := readLine_isReading container
      have reading' := readLine_isReading callable
      -- neither reads an argument list: the line does not end in `)`
      obtain rfl := readLine_container_arguments container
      have noArguments : g' = none := by
        cases g' with
        | none => rfl
        | some a => exact absurd ((isReading_getLast reading').2 rfl) unclosed
      subst noArguments
      obtain ⟨rfl, rfl⟩ := isReading_unique same reading reading'
      rfl

theorem readLine_container_of_closed {s : List Char}
    (closed : (dropFinalNewline s).getLast? = some ')') : readLine .container s = none := by
  cases container : readLine .container s with
  | none => rfl
  | some x =>
    obtain ⟨q, m, g⟩ := x
    have arguments := (isReading_getLast (readLine_isReading container)).1 closed
    rw [readLine_container_arguments container] at arguments
    cases arguments

theorem read_container_iff_callable (text : String) (sig : Signature) :
    Signature.read .container text = .ok sig ↔
      Signature.read .callable text = .ok sig ∧ sig.arguments = none := by
  by_cases closed : (dropFinalNewline text.toList).getLast? = some ')'
  · -- no container reads the line, and a callable reads it only with arguments
    have unread : Signature.read .container text = .error (.unreadableSignature text) := by
      rw [Signature.read, readLine_container_of_closed closed]
    rw [unread]
    refine ⟨fun h => (nomatch h), fun ⟨read, noArguments⟩ => ?_⟩
    have answer := read_isAnswer .callable text
    rw [read] at answer
    obtain ⟨-, -, -, -, -, noneIff⟩ := answer
    exact absurd closed (noneIff.1 noArguments)
  · have same : Signature.read .container text = Signature.read .callable text := by
      rw [Signature.read, Signature.read, readLine_container_eq_callable closed]
    rw [← same]
    refine ⟨fun read => ⟨read, ?_⟩, fun ⟨read, _⟩ => read⟩
    unfold Signature.read at read
    split at read
    · rename_i q m g line
      cases read
      rw [readLine_container_arguments line]
      rfl
    · cases read

/-! ### Callables and constructors -/

section Searches

variable {γ δ : Type} {f g : γ → Option δ}

theorem none_of_covers (covers : ∀ a, (g a).isSome → (f a).isSome) {a : γ}
    (first : f a = none) : g a = none := by
  cases second : g a with
  | none => rfl
  | some b => simpa [first] using covers a (by simp [second])

theorem findSome?_isSome_of_covers
    (covers : ∀ a, (g a).isSome → (f a).isSome) :
    ∀ l : List γ, (l.findSome? g).isSome → (l.findSome? f).isSome
  | [], found => found
  | a :: l, found => by
    rw [List.findSome?_cons] at found ⊢
    cases first : f a with
    | some b => rfl
    | none =>
      rw [none_of_covers covers first] at found
      exact findSome?_isSome_of_covers covers l found

theorem findSome?_eq_none_of_covers (covers : ∀ a, (g a).isSome → (f a).isSome) (l : List γ)
    (unanswered : l.findSome? f = none) : l.findSome? g = none := by
  cases found : l.findSome? g with
  | none => rfl
  | some y =>
    have covered := findSome?_isSome_of_covers covers l (by rw [found]; rfl)
    rw [unanswered] at covered
    cases covered

theorem findSome?_eq_of_covers (P : δ → Prop)
    (covers : ∀ a, (g a).isSome → (f a).isSome)
    (agrees : ∀ a y, f a = some y → P y → g a = some y) :
    ∀ (l : List γ) (y : δ), l.findSome? f = some y → P y → l.findSome? g = some y
  | [], y, found, _ => nomatch found
  | a :: l, y, found, property => by
    rw [List.findSome?_cons] at found ⊢
    cases first : f a with
    | some b =>
      rw [first] at found
      cases found
      rw [agrees a _ first property]
    | none =>
      rw [first] at found
      rw [none_of_covers covers first]
      exact findSome?_eq_of_covers P covers agrees l y found property

end Searches

theorem readUnqualified_constructor_cases (s : List Char) :
    readUnqualified .constructor s = readUnqualified .callable s ∨
      ∃ g, readUnqualified .constructor s = some (constructorName, g) := by
  unfold readUnqualified memberThenTail
  dsimp only
  split
  · rename_i x literal
    split at literal
    · -- the literal answered: the member is the five characters it consumed
      rename_i prefixed
      obtain ⟨t, rfl⟩ := List.isPrefixOf_iff_prefix.1 prefixed
      obtain ⟨g, -, rfl⟩ := Option.map_eq_some_iff.1 literal
      refine .inr ⟨g, ?_⟩
      simp only [Option.map_some, List.drop_left, List.length_append, Nat.add_sub_cancel,
        List.take_left]
    · cases literal
  · exact .inl rfl

theorem readUnqualified_constructor_of_callable {s : List Char}
    (reads : (readUnqualified .callable s).isSome) : (readUnqualified .constructor s).isSome := by
  rcases readUnqualified_constructor_cases s with same | ⟨g, literal⟩
  · rwa [same]
  · rw [literal]
    rfl

theorem readUnqualified_callable_of_constructor {s m : List Char} {g : Option (List Char)}
    (h : readUnqualified .constructor s = some (m, g)) (named : m ≠ constructorName) :
    readUnqualified .callable s = some (m, g) := by
  rcases readUnqualified_constructor_cases s with same | ⟨g', literal⟩
  · rwa [← same]
  · rw [literal] at h
    cases h
    exact absurd rfl named

theorem readLine_eq_or (shape : Shape) (s : List Char) :
    readLine shape s = ((qualifierSplits s).findSome? fun (p, r) =>
        (readUnqualified shape r).map fun (m, a) => (some p, m, a)).or
      ((readUnqualified shape s).map fun (m, a) => (none, m, a)) := by
  unfold readLine
  cases (qualifierSplits s).findSome? fun (p, r) =>
    (readUnqualified shape r).map fun (m, a) => (some p, m, a) <;> rfl

theorem qualified_constructor_of_callable (x : List Char × List Char)
    (found : ((readUnqualified .callable x.2).map fun (m, a) => (some x.1, m, a)).isSome) :
    ((readUnqualified .constructor x.2).map fun (m, a) => (some x.1, m, a)).isSome := by
  rw [Option.isSome_map] at found ⊢
  exact readUnqualified_constructor_of_callable found

theorem qualified_callable_of_constructor (x : List Char × List Char)
    (y : Option (List Char) × List Char × Option (List Char))
    (found : ((readUnqualified .constructor x.2).map fun (m, a) => (some x.1, m, a)) = some y)
    (named : y.2.1 ≠ constructorName) :
    ((readUnqualified .callable x.2).map fun (m, a) => (some x.1, m, a)) = some y := by
  obtain ⟨⟨m, a⟩, read, rfl⟩ := Option.map_eq_some_iff.1 found
  rw [readUnqualified_callable_of_constructor read named]
  rfl

theorem readLine_constructor_of_callable {s : List Char} (reads : (readLine .callable s).isSome) :
    (readLine .constructor s).isSome := by
  rw [readLine_eq_or] at reads ⊢
  -- a qualified reading of the callable is answered by the constructor at the same split or
  -- sooner; an unqualified one is answered by the constructor by itself or by a qualified one
  cases qualified : (qualifierSplits s).findSome? fun (p, r) =>
      (readUnqualified .callable r).map fun (m, a) => (some p, m, a) with
  | some y =>
    have found := findSome?_isSome_of_covers qualified_constructor_of_callable _
      (by rw [qualified]; rfl)
    obtain ⟨z, found⟩ := Option.isSome_iff_exists.1 found
    rw [found]
    rfl
  | none =>
    rw [qualified, Option.none_or, Option.isSome_map] at reads
    cases (qualifierSplits s).findSome? fun (p, r) =>
        (readUnqualified .constructor r).map fun (m, a) => (some p, m, a) with
    | some z => rfl
    | none =>
      rw [Option.none_or, Option.isSome_map]
      exact readUnqualified_constructor_of_callable reads

theorem readLine_callable_of_constructor {s : List Char} {x : Option (List Char) × List Char ×
    Option (List Char)} (h : readLine .constructor s = some x) (named : x.2.1 ≠ constructorName) :
    readLine .callable s = some x := by
  rw [readLine_eq_or] at h ⊢
  cases qualified : (qualifierSplits s).findSome? fun (p, r) =>
      (readUnqualified .constructor r).map fun (m, a) => (some p, m, a) with
  | some y =>
    -- the constructor answered at a split: the callable answers there with the same reading
    rw [qualified, Option.some_or] at h
    cases h
    rw [findSome?_eq_of_covers (fun y => y.2.1 ≠ constructorName)
      qualified_constructor_of_callable qualified_callable_of_constructor _ _ qualified named,
      Option.some_or]
  | none =>
    -- no split answered the constructor, so none answered the callable
    rw [qualified, Option.none_or] at h
    rw [findSome?_eq_none_of_covers qualified_constructor_of_callable _ qualified, Option.none_or]
    obtain ⟨⟨m, a⟩, read, rfl⟩ := Option.map_eq_some_iff.1 h
    rw [readUnqualified_callable_of_constructor read named]
    rfl

theorem read_constructor_of_callable {text : String}
    (reads : ∃ sig, Signature.read .callable text = .ok sig) :
    ∃ sig, Signature.read .constructor text = .ok sig := by
  obtain ⟨sig, read⟩ := reads
  unfold Signature.read at read ⊢
  split at read
  · rename_i q m g line
    obtain ⟨⟨q', m', g'⟩, line'⟩ :=
      Option.isSome_iff_exists.1 (readLine_constructor_of_callable (by rw [line]; rfl))
    rw [line']
    exact ⟨_, rfl⟩
  · cases read

theorem read_callable_of_constructor {text : String} {sig : Signature}
    (read : Signature.read .constructor text = .ok sig) (named : sig.member ≠ "#ctor") :
    Signature.read .callable text = .ok sig := by
  unfold Signature.read at read ⊢
  split at read
  · rename_i q m g line
    cases read
    have member : m ≠ constructorName := fun same => named (by rw [same]; rfl)
    rw [readLine_callable_of_constructor line member]
  · cases read

/-! ### The grammars of the directives -/

/-- How a container directive, a member directive and a constructor directive read one line
beside one another. -/
structure ReadsNested (nested member ctor : Directive) (text : String) : Prop where
  /-- The container reads the line exactly as the callable reads it without arguments. -/
  container_as_callable : ∀ sig, nested.readSignature text = .ok sig ↔
    member.readSignature text = .ok sig ∧ sig.arguments = none
  /-- A line the callable reads, the constructor reads too. -/
  callable_then_constructor :
    (∃ sig, member.readSignature text = .ok sig) → ∃ sig, ctor.readSignature text = .ok sig
  /-- A constructor reading whose member is not `#ctor` is the callable reading. -/
  constructor_as_callable : ∀ sig, ctor.readSignature text = .ok sig →
    sig.member ≠ "#ctor" → member.readSignature text = .ok sig

/-- The grammars of container, member and constructor directives extend one another
conservatively, for every directive of each shape and every line. -/
theorem grammars_extend_conservatively {nested member ctor : Directive}
    (isNested : nested.shape? = some .container) (isMember : member.shape? = some .callable)
    (isCtor : ctor.shape? = some .constructor) (text : String) :
    ReadsNested nested member ctor text := by
  have reads : ∀ {d : Directive} {shape : Shape}, d.shape? = some shape →
      d.readSignature text = Signature.read shape text := fun grammar => by
    simp only [Directive.readSignature, grammar]
  refine ⟨fun sig => ?_, fun found => ?_, fun sig read named => ?_⟩
  · rw [reads isNested, reads isMember]
    exact read_container_iff_callable text sig
  · rw [reads isMember] at found
    rw [reads isCtor]
    exact read_constructor_of_callable found
  · rw [reads isCtor] at read
    rw [reads isMember]
    exact read_callable_of_constructor read named

theorem grammars_extend_conservatively_at_constructor_line :
    (Directive.ofKind .cls).shape? = some .container ∧
      (Directive.ofKind .meth).shape? = some .callable ∧
      (Directive.ofKind .ctor).shape? = some .constructor ∧
      ReadsNested (.ofKind .cls) (.ofKind .meth) (.ofKind .ctor) "Ns.Type.#ctor(a, b)" :=
  ⟨rfl, rfl, rfl, grammars_extend_conservatively rfl rfl rfl "Ns.Type.#ctor(a, b)"⟩

end NetApiDoc.Signature
