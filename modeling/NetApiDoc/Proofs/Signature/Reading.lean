import NetApiDoc.Proofs.Signature.Recognise
import NetApiDoc.Proofs.Signature.Arguments
import NetApiDoc.Kind

set_option autoImplicit false

namespace NetApiDoc.Signature

open NetApiDoc.Text

theorem mem_qualifierSplits {s p r : List Char} :
    (p, r) ∈ qualifierSplits s ↔ s = p ++ '.' :: r ∧ p ≠ [] ∧ '\n' ∉ p := by
  induction s generalizing p with
  | nil =>
    simp only [qualifierSplits, List.not_mem_nil, false_iff, not_and]
    intro split
    cases p <;> simp at split
  | cons c cs ih =>
    -- a newline ends every qualifier; past any other character a split is one of the tail's,
    -- extended by it, or the cut at a dot right after it
    simp only [qualifierSplits]
    split
    · rename_i newline
      simp only [List.not_mem_nil, false_iff, not_and]
      intro split nonempty
      cases p with
      | nil => exact absurd rfl nonempty
      | cons d p =>
        obtain ⟨rfl, -⟩ := List.cons.inj split
        simp_all
    · rename_i newline
      have hc : c ≠ '\n' := by simpa using newline
      constructor
      · intro mem
        rcases List.mem_append.1 mem with mem | mem
        · obtain ⟨⟨p', r'⟩, mem', same⟩ := List.mem_map.1 mem
          obtain ⟨rfl, rfl⟩ := Prod.mk.inj same
          obtain ⟨rfl, -, clean⟩ := ih.1 mem'
          exact ⟨rfl, by simp, by simp [Ne.symm hc, clean]⟩
        · split at mem
          · rename_i r₀
            obtain ⟨rfl, rfl⟩ := Prod.mk.inj (List.mem_singleton.1 mem)
            exact ⟨rfl, by simp, by simp [Ne.symm hc]⟩
          · simp at mem
      · rintro ⟨split, nonempty, clean⟩
        cases p with
        | nil => exact absurd rfl nonempty
        | cons d p =>
          obtain ⟨rfl, rfl⟩ := List.cons.inj split
          have clean' : '\n' ∉ p := fun h => clean (List.mem_cons_of_mem c h)
          apply List.mem_append.2
          cases p with
          | nil => exact Or.inr (by simp)
          | cons e p =>
            exact Or.inl (List.mem_map.2 ⟨(e :: p, r), ih.2 ⟨rfl, by simp, clean'⟩, rfl⟩)

theorem qualifierSplits_pairwise (s : List Char) :
    (qualifierSplits s).Pairwise fun x y => y.1.length < x.1.length := by
  induction s with
  | nil => exact List.Pairwise.nil
  | cons c cs ih =>
    simp only [qualifierSplits]
    split
    · exact List.Pairwise.nil
    · rw [List.pairwise_append, List.pairwise_map]
      refine ⟨ih.imp fun h => by simpa using h, ?_, ?_⟩
      · split <;> simp
      · intro x mem y mem'
        obtain ⟨⟨p, r⟩, split, rfl⟩ := List.mem_map.1 mem
        have nonempty := (mem_qualifierSplits.1 split).2.1
        split at mem'
        · obtain rfl := List.mem_singleton.1 mem'
          cases p with
          | nil => exact absurd rfl nonempty
          | cons _ _ => simp
        · simp at mem'

theorem dropFinalNewline_append {u v : List Char} (nonempty : v ≠ []) :
    dropFinalNewline (u ++ v) = u ++ dropFinalNewline v := by
  obtain ⟨x, last⟩ := Option.isSome_iff_exists.mp (List.getLast?_isSome.mpr nonempty)
  have whole : (u ++ v).getLast? = some x := by rw [List.getLast?_append, last, Option.some_or]
  unfold dropFinalNewline
  rw [whole, last, List.dropLast_append_of_ne_nil nonempty]
  split <;> rfl

theorem dropFinalNewline_dot (r : List Char) :
    dropFinalNewline ('.' :: r) = '.' :: dropFinalNewline r := by
  cases r with
  | nil => rfl
  | cons c r => exact @dropFinalNewline_append ['.'] (c :: r) (by simp)

theorem dropFinalNewline_of_getLast {s : List Char} (last : s.getLast? ≠ some '\n') :
    dropFinalNewline s = s := by
  simp [dropFinalNewline, last]

theorem dropFinalNewline_newline (s : List Char) : dropFinalNewline (s ++ ['\n']) = s := by
  simp [dropFinalNewline]

theorem eq_dropFinalNewline_append (s : List Char) :
    ∃ e, atEnd e = true ∧ s = dropFinalNewline s ++ e := by
  by_cases last : s.getLast? = some '\n'
  · obtain ⟨ys, rfl⟩ := List.getLast?_eq_some_iff.1 last
    exact ⟨['\n'], rfl, by rw [dropFinalNewline_newline]⟩
  · exact ⟨[], rfl, by simp [dropFinalNewline, last]⟩

theorem getLast_argumentText_some {m a : List Char} :
    (m ++ argumentText (some a)).getLast? = some ')' := by
  rw [argumentText, show m ++ '(' :: (a ++ [')']) = (m ++ '(' :: a) ++ [')'] by simp,
    List.getLast?_append, List.getLast?_singleton, Option.some_or]

theorem getLast_member_arguments {shape : Shape} {m : List Char} {g : Option (List Char)}
    (member : IsMember shape m) :
    (m ++ argumentText g).getLast? ≠ some '\n' ∧
      ((m ++ argumentText g).getLast? = some ')' ↔ g.isSome) := by
  cases g with
  | some a => rw [getLast_argumentText_some]; simp
  | none =>
    simp only [argumentText, List.append_nil, Option.isSome_none, Bool.false_eq_true, iff_false]
    constructor
    · exact fun last => ((isMember_endsCleanly member).2 '\n' last).1 rfl
    · exact fun last => ((isMember_endsCleanly member).2 ')' last).2 rfl

theorem readUnqualified_reads {shape : Shape} {s m : List Char} {g : Option (List Char)}
    (h : readUnqualified shape s = some (m, g)) : ReadsAs shape (dropFinalNewline s) m g := by
  obtain ⟨member, allows, e, rfl, stop⟩ := readUnqualified_sound h
  refine ⟨?_, member, allows⟩
  rcases atEnd_iff.1 stop with rfl | rfl
  · rw [List.append_nil, dropFinalNewline_of_getLast (getLast_member_arguments member).1]
  · exact dropFinalNewline_newline _

theorem readUnqualified_isSome_iff {shape : Shape} {s : List Char} :
    (readUnqualified shape s).isSome ↔ InLanguage shape (dropFinalNewline s) := by
  constructor
  · intro found
    obtain ⟨⟨m, g⟩, h⟩ := Option.isSome_iff_exists.1 found
    exact ⟨m, g, readUnqualified_reads h⟩
  · rintro ⟨m, g, split, member, allows⟩
    obtain ⟨e, stop, whole⟩ := eq_dropFinalNewline_append s
    rw [whole, split]
    exact readUnqualified_complete member allows stop

theorem dropFinalNewline_qualified (p r : List Char) :
    dropFinalNewline (p ++ '.' :: r) = p ++ '.' :: dropFinalNewline r := by
  rw [dropFinalNewline_append (by simp), dropFinalNewline_dot]

theorem isQualifier_iff {shape : Shape} {s p : List Char} :
    IsQualifier shape (dropFinalNewline s) p ↔
      ∃ r, (p, r) ∈ qualifierSplits s ∧ (readUnqualified shape r).isSome := by
  constructor
  · rintro ⟨r, split, nonempty, clean, m, g, rfl, member, allows⟩
    obtain ⟨e, stop, whole⟩ := eq_dropFinalNewline_append s
    refine ⟨m ++ argumentText g ++ e, mem_qualifierSplits.2 ⟨?_, nonempty, clean⟩,
      readUnqualified_complete member allows stop⟩
    rw [whole, split]
    simp
  · rintro ⟨r, mem, reads⟩
    obtain ⟨rfl, nonempty, clean⟩ := mem_qualifierSplits.1 mem
    exact ⟨dropFinalNewline r, dropFinalNewline_qualified p r, nonempty, clean,
      readUnqualified_isSome_iff.1 reads⟩

theorem length_le_of_first {shape : Shape} {s p r : List Char}
    {before after : List (List Char × List Char)}
    (splits : qualifierSplits s = before ++ (p, r) :: after)
    (earlier : ∀ x ∈ before, readUnqualified shape x.2 = none) {p' r' : List Char}
    (mem : (p', r') ∈ qualifierSplits s) (reads : (readUnqualified shape r').isSome) :
    p'.length ≤ p.length := by
  have order := qualifierSplits_pairwise s
  rw [splits] at order mem
  rcases List.mem_append.1 mem with inBefore | inRest
  · rw [earlier _ inBefore] at reads
    exact absurd reads (by simp)
  · rcases List.mem_cons.1 inRest with same | inAfter
    · exact Nat.le_of_eq (congrArg List.length (Prod.mk.inj same).1)
    · exact Nat.le_of_lt ((List.pairwise_cons.1 (List.pairwise_append.1 order).2.1).1 _ inAfter)

theorem readLine_isReading {shape : Shape} {s : List Char} {q : Option (List Char)}
    {m : List Char} {g : Option (List Char)} (h : readLine shape s = some (q, m, g)) :
    IsReading shape (dropFinalNewline s) q m g := by
  simp only [readLine] at h
  split at h
  · -- the first split whose rest reads: no split before it reads, and its qualifier is the
    -- longest of those that do
    rename_i x found
    obtain ⟨before, ⟨p, r⟩, after, splits, reads, earlier⟩ := List.findSome?_eq_some_iff.1 found
    obtain ⟨⟨m', g'⟩, readsRest, same⟩ := Option.map_eq_some_iff.1 reads
    obtain rfl := Option.some.inj h
    obtain ⟨rfl, rfl, rfl⟩ : some p = q ∧ m' = m ∧ g' = g := by simpa using same
    have mem : (p, r) ∈ qualifierSplits s := by rw [splits]; simp
    obtain ⟨split, member, allows⟩ := readUnqualified_reads readsRest
    obtain ⟨rfl, nonempty, clean⟩ := mem_qualifierSplits.1 mem
    refine ⟨by rw [dropFinalNewline_qualified, split]; simp [qualifierText], member, allows,
      nonempty, clean, fun p' qualifier => ?_⟩
    obtain ⟨r', mem', reads'⟩ := isQualifier_iff.1 qualifier
    refine length_le_of_first splits (fun x inBefore => ?_) mem' reads'
    obtain ⟨p'', r''⟩ := x
    simpa using earlier _ inBefore
  · -- no split's rest reads, so the line has no qualifier and reads by itself
    rename_i noneFound
    obtain ⟨⟨m', g'⟩, readsLine, same⟩ := Option.map_eq_some_iff.1 h
    obtain ⟨rfl, rfl, rfl⟩ : none = q ∧ m' = m ∧ g' = g := by simpa using same
    obtain ⟨split, member, allows⟩ := readUnqualified_reads readsLine
    refine ⟨by simp [qualifierText, split], member, allows, fun p' qualifier => ?_⟩
    obtain ⟨r', mem', reads'⟩ := isQualifier_iff.1 qualifier
    have refused := List.findSome?_eq_none_iff.1 noneFound _ mem'
    simp only [Option.map_eq_none_iff] at refused
    rw [refused] at reads'
    exact absurd reads' (by simp)

theorem isReading_qualified {shape : Shape} {s p m : List Char} {g : Option (List Char)}
    (reading : IsReading shape s (some p) m g) : IsQualifier shape s p := by
  obtain ⟨split, member, allows, nonempty, clean, -⟩ := reading
  exact ⟨m ++ argumentText g, by simp [split, qualifierText], nonempty, clean, m, g, rfl,
    member, allows⟩

theorem isReading_unqualified {shape : Shape} {s m : List Char} {g : Option (List Char)}
    (reading : IsReading shape s none m g) : InLanguage shape s := by
  obtain ⟨split, member, allows, -⟩ := reading
  exact ⟨m, g, by simpa [qualifierText] using split, member, allows⟩

theorem readLine_eq_none_iff {shape : Shape} {s : List Char} :
    readLine shape s = none ↔
      (∀ p, ¬ IsQualifier shape (dropFinalNewline s) p) ∧
        ¬ InLanguage shape (dropFinalNewline s) := by
  constructor
  · intro h
    simp only [readLine] at h
    split at h
    · simp at h
    · rename_i noneFound
      refine ⟨fun p qualifier => ?_, fun language => ?_⟩
      · obtain ⟨r, mem, reads⟩ := isQualifier_iff.1 qualifier
        have refused := List.findSome?_eq_none_iff.1 noneFound _ mem
        simp only [Option.map_eq_none_iff] at refused
        rw [refused] at reads
        exact absurd reads (by simp)
      · have reads := readUnqualified_isSome_iff.2 language
        simp only [Option.map_eq_none_iff] at h
        rw [h] at reads
        exact absurd reads (by simp)
  · rintro ⟨noQualifier, notLanguage⟩
    cases h : readLine shape s with
    | none => rfl
    | some x =>
      obtain ⟨q, m, g⟩ := x
      have reading := readLine_isReading h
      cases q with
      | some p => exact absurd (isReading_qualified reading) (noQualifier p)
      | none => exact absurd (isReading_unqualified reading) notLanguage

theorem isReading_getLast {shape : Shape} {s : List Char} {q : Option (List Char)}
    {m : List Char} {g : Option (List Char)} (reading : IsReading shape s q m g) :
    s.getLast? = some ')' ↔ g.isSome := by
  obtain ⟨split, member, -⟩ := reading
  have nonempty : m ++ argumentText g ≠ [] := by simp [(isMember_endsCleanly member).1]
  obtain ⟨x, last⟩ := Option.isSome_iff_exists.mp (List.getLast?_isSome.mpr nonempty)
  have whole : s.getLast? = (m ++ argumentText g).getLast? := by
    rw [split, List.append_assoc, List.getLast?_append, last, Option.some_or]
  rw [whole]
  exact (getLast_member_arguments member).2

/-- The right answer to reading a signature line of a shape. An unreadable line is reported as a
value error quoting it, and only when the line without its final newline has neither a nonempty
qualifier nor a reading as a member by itself. A read signature spells that line out as its
qualifier and a dot, its member and its argument list; the qualifier is the longest nonempty
newline-free text before a dot after which the line reads, and there is none only when no such
text exists; the arguments are the argument list's pieces at its separators, and there are none
exactly when the line does not end in `)`. -/
def IsAnswer (shape : Shape) (text : String) : Except Error Signature → Prop
  | .ok sig =>
    ∃ m g, IsReading shape (dropFinalNewline text.toList) (sig.qualifier.map String.toList) m g ∧
      sig.member.toList = m ∧
      (match g with
        | some a => ∃ args, sig.arguments = some args ∧ SplitsInto a (args.map String.toList)
        | none => sig.arguments = none) ∧
      (sig.arguments = none ↔ (dropFinalNewline text.toList).getLast? ≠ some ')')
  | .error e =>
    e.className = "ValueError" ∧ e.message = "Could not parse signature: " ++ text ∧
      (∀ p, ¬ IsQualifier shape (dropFinalNewline text.toList) p) ∧
      ¬ InLanguage shape (dropFinalNewline text.toList)

theorem read_isAnswer (shape : Shape) (text : String) :
    IsAnswer shape text (Signature.read shape text) := by
  unfold Signature.read
  split
  · rename_i q m g line
    have reading := readLine_isReading line
    have roundTrip : (String.toList ∘ String.ofList) = id := funext fun _ => String.toList_ofList
    refine ⟨m, g, by simpa [roundTrip] using reading, String.toList_ofList, ?_, ?_⟩
    · cases g with
      | none => rfl
      | some a =>
        refine ⟨_, rfl, ?_⟩
        simpa [String.toList_ofList] using splitArguments_splitsInto (String.ofList a)
    · rw [ne_eq, isReading_getLast reading]
      cases g <;> simp
  · rename_i line
    exact ⟨rfl, rfl, readLine_eq_none_iff.1 line⟩

/-- Every directive with a signature grammar answers every line rightly. -/
theorem readSignature_reads_longest_qualifier (d : Directive) (shape : Shape)
    (grammar : d.shape? = some shape) (text : String) :
    IsAnswer shape text (d.readSignature text) := by
  have withGrammar : d.readSignature text = Signature.read shape text := by
    simp only [Directive.readSignature, grammar]
  rw [withGrammar]
  exact read_isAnswer shape text

theorem readSignature_reads_method_call :
    (Directive.ofKind .meth).shape? = some .callable ∧
      IsAnswer .callable "Ns.Type.Run(a, b)"
        ((Directive.ofKind .meth).readSignature "Ns.Type.Run(a, b)") :=
  ⟨rfl, readSignature_reads_longest_qualifier (.ofKind .meth) .callable rfl "Ns.Type.Run(a, b)"⟩

/-- An empty text is no qualifier: `.A` is unreadable, although a dot and a member follow the
empty text before it. -/
theorem readSignature_leading_dot_unreadable :
    (Directive.ofKind .cls).readSignature ".A" = .error (.unreadableSignature ".A") ∧
      dropFinalNewline ".A".toList = [] ++ '.' :: ['A'] ∧ InLanguage .container ['A'] :=
  ⟨rfl, rfl, ['A'], none, rfl,
    ⟨['A'], [], rfl, ⟨List.cons_ne_nil _ _, fun _ hc => List.mem_singleton.1 hc ▸ rfl⟩,
      Or.inl isTypeSuffix_nil⟩, trivial⟩

end NetApiDoc.Signature
