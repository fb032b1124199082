import NetApiDoc.Proofs.Signature.Language

set_option autoImplicit false

namespace NetApiDoc.Signature

open NetApiDoc.Text

theorem mem_plusRests {p : Char → Bool} {s r : List Char} :
    r ∈ plusRests p s ↔ ∃ u, s = u ++ r ∧ IsRun p u := by
  induction s with
  | nil => simp [plusRests, IsRun]
  | cons c cs ih =>
    constructor
    · intro h
      simp only [plusRests] at h
      split at h
      · rcases List.mem_cons.1 h with rfl | h
        · exact ⟨[c], rfl, isRun_cons.2 ⟨by assumption, Or.inl rfl⟩⟩
        · obtain ⟨u, rfl, hu⟩ := ih.1 h
          exact ⟨c :: u, rfl, isRun_cons.2 ⟨by assumption, Or.inr hu⟩⟩
      · simp at h
    · rintro ⟨u, hs, hu⟩
      cases u with
      | nil => exact absurd hu not_isRun_nil
      | cons d u =>
        obtain ⟨rfl, rfl⟩ := List.cons.inj hs
        obtain ⟨hd, hu⟩ := isRun_cons.1 hu
        simp only [plusRests, hd, if_true, List.mem_cons]
        rcases hu with rfl | hu
        · exact Or.inl rfl
        · exact Or.inr (ih.2 ⟨u, rfl, hu⟩)

theorem mem_closeRests {s r : List Char} :
    r ∈ closeRests s ↔ ∃ w c, s = w ++ c :: r ∧ '\n' ∉ w ∧ isCloseBracket c = true := by
  induction s with
  | nil => simp [closeRests]
  | cons d ds ih =>
    simp only [closeRests, List.mem_append]
    constructor
    · rintro (h | h)
      · split at h
        · exact ⟨[], d, by simp_all⟩
        · simp at h
      · split at h
        · simp at h
        · rename_i hd
          obtain ⟨w, c, rfl, hw, hc⟩ := ih.1 h
          have hd' : '\n' ≠ d := by
            rintro rfl
            exact hd (beq_self_eq_true _)
          exact ⟨d :: w, c, rfl, by simp [hd', hw], hc⟩
    · rintro ⟨w, c, hs, hw, hc⟩
      -- a close bracket right here gives the first rest; any later one comes from the tail,
      -- which the line reaches only past characters other than a newline
      cases w with
      | nil =>
        obtain ⟨rfl, rfl⟩ := List.cons.inj hs
        left
        simp [hc]
      | cons e w =>
        obtain ⟨rfl, rfl⟩ := List.cons.inj hs
        right
        have hd : (d == '\n') = false := by
          rw [beq_eq_false_iff_ne]
          rintro rfl
          exact hw List.mem_cons_self
        simp only [hd, Bool.false_eq_true, if_false]
        exact ih.2 ⟨w, c, rfl, fun h => hw (List.mem_cons_of_mem d h), hc⟩

theorem mem_bracketedRests {s r : List Char} :
    r ∈ bracketedRests s ↔ ∃ u, s = u ++ r ∧ IsBracketed u := by
  constructor
  · intro h
    unfold bracketedRests at h
    split at h
    · rename_i o c cs
      split at h
      · rename_i hoc
        simp only [Bool.and_eq_true, bne_iff_ne, ne_eq] at hoc
        obtain ⟨w, d, rfl, hw, hd⟩ := mem_closeRests.1 h
        exact ⟨o :: (c :: w ++ [d]), by simp, o, c :: w, d, rfl, hoc.1, by simp,
          by simp [Ne.symm hoc.2, hw], hd⟩
      · simp at h
    · simp at h
  · rintro ⟨u, rfl, o, w, d, rfl, ho, hw, hnl, hd⟩
    cases w with
    | nil => exact absurd rfl hw
    | cons c w =>
      have hc : (c != '\n') = true := by
        rw [bne_iff_ne]
        rintro rfl
        exact hnl List.mem_cons_self
      have hs : o :: (c :: w ++ [d]) ++ r = o :: c :: (w ++ d :: r) := by simp
      rw [hs]
      simp only [bracketedRests, ho, hc, Bool.and_self, if_true]
      exact mem_closeRests.2 ⟨w, d, rfl, fun h => hnl (List.mem_cons_of_mem c h), hd⟩

theorem mem_argumentRests {s r : List Char} :
    r ∈ argumentRests s ↔ ∃ u, s = u ++ r ∧ IsArgument u := by
  simp only [argumentRests, List.mem_append, List.mem_reverse, mem_plusRests,
    mem_bracketedRests, IsArgument]
  constructor
  · rintro (⟨u, hs, hu⟩ | ⟨u, hs, hu⟩)
    · exact ⟨u, hs, Or.inl hu⟩
    · exact ⟨u, hs, Or.inr hu⟩
  · rintro ⟨u, hs, hu | hu⟩
    · exact Or.inl ⟨u, hs, hu⟩
    · exact Or.inr ⟨u, hs, hu⟩

theorem mem_optionalBlankRests {s r : List Char} :
    r ∈ optionalBlankRests s ↔ ∃ b, s = b ++ r ∧ IsOptionalBlank b := by
  constructor
  · intro h
    unfold optionalBlankRests at h
    split at h
    · simp only [List.mem_singleton] at h
      exact ⟨[], by simp [h], Or.inl rfl⟩
    · rename_i c cs
      split at h
      · rcases List.mem_cons.1 h with rfl | h
        · exact ⟨[c], rfl, Or.inr ⟨c, rfl, by assumption⟩⟩
        · simp only [List.mem_singleton] at h
          exact ⟨[], by simp [h], Or.inl rfl⟩
      · simp only [List.mem_singleton] at h
        exact ⟨[], by simp [h], Or.inl rfl⟩
  · rintro ⟨b, rfl, rfl | ⟨c, rfl, hc⟩⟩
    · unfold optionalBlankRests
      split
      · simp_all
      · split <;> simp_all
    · simp [optionalBlankRests, hc]

theorem mem_separatedArgumentRests {s r : List Char} :
    r ∈ separatedArgumentRests s ↔ ∃ u, s = u ++ r ∧ IsSeparatedArgument u := by
  constructor
  · intro h
    unfold separatedArgumentRests at h
    split at h
    · rename_i cs
      obtain ⟨t, ht, hr⟩ := List.mem_flatMap.1 h
      obtain ⟨b, rfl, hb⟩ := mem_optionalBlankRests.1 ht
      obtain ⟨a, rfl, ha⟩ := mem_argumentRests.1 hr
      exact ⟨',' :: (b ++ a), by simp, b, a, rfl, hb, ha⟩
    · simp at h
  · rintro ⟨u, rfl, b, a, rfl, hb, ha⟩
    simp only [List.cons_append, List.append_assoc, separatedArgumentRests]
    exact List.mem_flatMap.2 ⟨a ++ r, mem_optionalBlankRests.2 ⟨b, rfl, hb⟩,
      mem_argumentRests.2 ⟨a, rfl, ha⟩⟩

section Continuations

variable {β : Type}

theorem closeGeneric_sound {s : List Char} {k : Cont β} {b : β} (h : closeGeneric s k = some b) :
    ∃ c r, s = c :: r ∧ isCloseBracket c = true ∧ k r = some b := by
  unfold closeGeneric at h
  split at h
  · rename_i c cs
    split at h
    · rename_i hc
      simp only [Bool.and_eq_true] at hc
      exact ⟨c, cs, rfl, hc.1, h⟩
    · simp at h
  · simp at h

theorem closeGeneric_complete {c : Char} {r : List Char} {k : Cont β}
    (hc : isCloseBracket c = true) (hr : startsBracketedRun r = false) (hk : (k r).isSome) :
    (closeGeneric (c :: r) k).isSome := by
  simp [closeGeneric, hc, hr, hk]

theorem moreArguments_sound {k : Cont β} {b : β} (s : List Char)
    (h : moreArguments s k = some b) :
    ∃ m c r, s = m ++ c :: r ∧ IsMoreArguments m ∧ isCloseBracket c = true ∧ k r = some b := by
  rw [moreArguments] at h
  -- either the list closes here, or one more separated argument is read and the search
  -- resumes on a shorter rest
  split at h
  · rename_i b' hclose
    obtain ⟨c, r, rfl, hc, hk⟩ := closeGeneric_sound hclose
    exact ⟨[], c, r, rfl, .nil, hc, by rw [hk, h]⟩
  · obtain ⟨⟨t, ht⟩, -, hb⟩ := List.exists_of_findSome?_eq_some h
    obtain ⟨a, hs, ha⟩ := mem_separatedArgumentRests.1 ht
    obtain ⟨m, c, r, rfl, hm, hc, hk⟩ := moreArguments_sound t hb
    exact ⟨a ++ m, c, r, by simp [hs], .cons ha hm, hc, hk⟩
termination_by s.length
decreasing_by exact mem_separatedArgumentRests_length ht

theorem moreArguments_complete {k : Cont β} {m : List Char} (hm : IsMoreArguments m)
    {c : Char} {r : List Char} (hc : isCloseBracket c = true) (hr : startsBracketedRun r = false)
    (hk : (k r).isSome) : (moreArguments (m ++ c :: r) k).isSome := by
  -- induction on the further arguments; when the closing bracket does not answer at once,
  -- the search tries the rest after the next argument, which the hypothesis answers
  induction hm with
  | nil =>
    rw [moreArguments]
    have hclose := closeGeneric_complete hc hr hk
    split
    · rfl
    · simp_all
  | @cons a u ha _ ih =>
    rw [moreArguments]
    split
    · rfl
    · rw [List.findSome?_isSome_iff]
      exact ⟨⟨u ++ c :: r, mem_separatedArgumentRests.2 ⟨a, by simp, ha⟩⟩, List.mem_attach _ _, ih⟩

theorem generic_sound {s : List Char} {k : Cont β} {b : β} (h : generic s k = some b) :
    ∃ u r, s = u ++ r ∧ IsGeneric u ∧ k r = some b := by
  unfold generic at h
  split at h
  · rename_i o cs
    split at h
    · obtain ⟨t, ht, hb⟩ := List.exists_of_findSome?_eq_some h
      obtain ⟨a, rfl, ha⟩ := mem_argumentRests.1 ht
      obtain ⟨m, c, r, rfl, hm, hc, hk⟩ := moreArguments_sound _ hb
      exact ⟨o :: (a ++ m ++ [c]), r, by simp, ⟨o, a, m, c, rfl, by assumption, ha, hm, hc⟩, hk⟩
    · simp at h
  · simp at h

theorem generic_complete {u r : List Char} {k : Cont β} (hu : IsGeneric u)
    (hr : startsBracketedRun r = false) (hk : (k r).isSome) : (generic (u ++ r) k).isSome := by
  obtain ⟨o, a, m, c, rfl, ho, ha, hm, hc⟩ := hu
  have hs : o :: (a ++ m ++ [c]) ++ r = o :: (a ++ (m ++ c :: r)) := by simp
  rw [hs]
  simp only [generic, ho, if_true]
  rw [List.findSome?_isSome_iff]
  exact ⟨m ++ c :: r, mem_argumentRests.2 ⟨a, rfl, ha⟩, moreArguments_complete hm hc hr hk⟩

end Continuations

theorem mem_tickedDigitsRests {t s r : List Char} :
    r ∈ tickedDigitsRests t s ↔ ∃ u, s = u ++ r ∧ IsTicked t u := by
  unfold tickedDigitsRests
  split
  · rename_i ht
    obtain ⟨v, rfl⟩ := List.isPrefixOf_iff_prefix.1 ht
    simp only [List.drop_left, List.mem_reverse, mem_plusRests]
    constructor
    · rintro ⟨d, rfl, hd⟩
      exact ⟨t ++ d, by simp, d, rfl, hd⟩
    · rintro ⟨u, hs, d, rfl, hd⟩
      exact ⟨d, by simpa using hs, hd⟩
  · rename_i ht
    simp only [List.not_mem_nil, false_iff]
    rintro ⟨u, rfl, d, rfl, -⟩
    exact ht (List.isPrefixOf_iff_prefix.2 ⟨d ++ r, by simp⟩)

theorem mem_dimensionRests {s r : List Char} :
    r ∈ dimensionRests s ↔ ∃ u, s = u ++ r ∧ IsDimension u := by
  simp only [dimensionRests, List.mem_flatMap, List.mem_append, List.mem_singleton,
    mem_tickedDigitsRests]
  constructor
  · rintro ⟨t, ht, hr⟩
    obtain ⟨x, hx, hsx⟩ : ∃ x, s = x ++ t ∧ (x = [] ∨ IsTicked ['`'] x) := by
      rcases ht with ⟨x, h1, h2⟩ | rfl
      · exact ⟨x, h1, Or.inr h2⟩
      · exact ⟨[], rfl, Or.inl rfl⟩
    obtain ⟨y, hy, hty⟩ : ∃ y, t = y ++ r ∧ (y = [] ∨ IsTicked ['`', '`'] y) := by
      rcases hr with ⟨y, h1, h2⟩ | rfl
      · exact ⟨y, h1, Or.inr h2⟩
      · exact ⟨[], rfl, Or.inl rfl⟩
    exact ⟨x ++ y, by simp [hx, hy], x, y, rfl, hsx, hty⟩
  · rintro ⟨u, rfl, x, y, rfl, hx, hy⟩
    refine ⟨y ++ r, ?_, ?_⟩
    · rcases hx with rfl | hx
      · exact Or.inr (by simp)
      · exact Or.inl ⟨x, by simp, hx⟩
    · rcases hy with rfl | hy
      · exact Or.inr (by simp)
      · exact Or.inl ⟨y, rfl, hy⟩

theorem isTypeSuffix_nil : IsTypeSuffix [] := Or.inl ⟨[], [], rfl, Or.inl rfl, Or.inl rfl⟩

theorem startsBracketedRun_of_not_open {o : Char} (ho : isOpenBracket o = false)
    (r : List Char) : startsBracketedRun (o :: r) = false := by
  cases r <;> simp [startsBracketedRun, ho]

theorem startsBracketedRun_closeIndexer (r : List Char) : startsBracketedRun (']' :: r) = false :=
  startsBracketedRun_of_not_open (by decide) r

section Continuations

variable {β : Type}

theorem typeSuffix_sound {s : List Char} {k : Cont β} {b : β} (h : typeSuffix s k = some b) :
    ∃ u r, s = u ++ r ∧ IsTypeSuffix u ∧ k r = some b := by
  unfold typeSuffix at h
  split at h
  · rename_i b' hd
    obtain ⟨r, hr, hk⟩ := List.exists_of_findSome?_eq_some hd
    obtain ⟨u, rfl, hu⟩ := mem_dimensionRests.1 hr
    exact ⟨u, r, rfl, Or.inl hu, by rw [hk, h]⟩
  · obtain ⟨u, r, rfl, hu, hk⟩ := generic_sound h
    exact ⟨u, r, rfl, Or.inr hu, hk⟩

theorem typeSuffix_complete {u r : List Char} {k : Cont β} (hu : IsTypeSuffix u)
    (hr : startsBracketedRun r = false) (hk : (k r).isSome) : (typeSuffix (u ++ r) k).isSome := by
  unfold typeSuffix
  split
  · rfl
  · rename_i hd
    -- the dimension search failed, so the suffix is a generic list: a dimension suffix
    -- would have given the search an answer
    rcases hu with hu | hu
    · have hfound : ((dimensionRests (u ++ r)).findSome? k).isSome :=
        List.findSome?_isSome_iff.2 ⟨r, mem_dimensionRests.2 ⟨u, rfl, hu⟩, hk⟩
      rw [hd] at hfound
      exact absurd hfound (by simp)
    · exact generic_complete hu hr hk

theorem closeIndexer_sound {t : List Char} {k : Cont β} {b : β}
    (h : (match t with
      | ']' :: u => k u
      | _ => none) = some b) : ∃ u, t = ']' :: u ∧ k u = some b := by
  split at h
  · exact ⟨_, rfl, h⟩
  · simp at h

theorem indexer_sound {s : List Char} {k : Cont β} {b : β} (h : indexer s k = some b) :
    ∃ u r, s = u ++ r ∧ (u = [] ∨ IsIndexer u) ∧ k r = some b := by
  simp only [indexer] at h
  split at h
  · rename_i b' hb
    split at hb
    · rename_i cs
      obtain ⟨t, ht, hts⟩ := List.exists_of_findSome?_eq_some hb
      obtain ⟨w, rfl, hw⟩ := mem_plusRests.1 ht
      obtain ⟨v, r', rfl, hv, hk⟩ := typeSuffix_sound hts
      obtain ⟨r, rfl, hkr⟩ := closeIndexer_sound hk
      exact ⟨'[' :: (w ++ v ++ [']']), r, by simp, Or.inr ⟨w, v, rfl, hw, hv⟩, by rw [hkr, h]⟩
    · simp at hb
  · exact ⟨[], s, rfl, Or.inl rfl, h⟩

theorem indexer_complete {u r : List Char} {k : Cont β} (hu : u = [] ∨ IsIndexer u)
    (hk : (k r).isSome) : (indexer (u ++ r) k).isSome := by
  simp only [indexer]
  split
  · rfl
  · rename_i hb
    -- the bracketed search failed; an indexer text would have answered it
    rcases hu with rfl | ⟨w, t, rfl, hw, ht⟩
    · exact hk
    · have hs : '[' :: (w ++ t ++ [']']) ++ r = '[' :: (w ++ (t ++ ']' :: r)) := by simp
      simp only [hs] at hb
      exact absurd hb (Option.ne_none_iff_isSome.2 (List.findSome?_isSome_iff.2
        ⟨t ++ ']' :: r, mem_plusRests.2 ⟨w, rfl, hw⟩,
          typeSuffix_complete ht (startsBracketedRun_closeIndexer r) hk⟩))

theorem memberName_sound {s : List Char} {k : Cont β} {b : β} (h : memberName s k = some b) :
    ∃ u r, s = u ++ r ∧ IsMemberName u ∧ k r = some b := by
  obtain ⟨t, ht, hb⟩ := List.exists_of_findSome?_eq_some h
  obtain ⟨n, rfl, hn⟩ := mem_plusRests.1 ht
  split at hb
  · rename_i b' hts
    obtain ⟨u, r, rfl, hu, hk⟩ := typeSuffix_sound hts
    exact ⟨n ++ u, r, by simp, ⟨n, u, rfl, hn, Or.inl hu⟩, by rw [hk, hb]⟩
  · obtain ⟨u, r, rfl, hu, hk⟩ := indexer_sound hb
    rcases hu with rfl | hu
    · exact ⟨n, r, by simp, ⟨n, [], by simp, hn, Or.inl isTypeSuffix_nil⟩, hk⟩
    · exact ⟨n ++ u, r, by simp, ⟨n, u, rfl, hn, Or.inr hu⟩, hk⟩

theorem memberName_complete {u r : List Char} {k : Cont β} (hu : IsMemberName u)
    (hr : startsBracketedRun r = false) (hk : (k r).isSome) : (memberName (u ++ r) k).isSome := by
  obtain ⟨n, t, rfl, hn, ht⟩ := hu
  unfold memberName
  rw [List.findSome?_isSome_iff]
  refine ⟨t ++ r, mem_plusRests.2 ⟨n, by simp, hn⟩, ?_⟩
  split
  · rfl
  · rename_i hts
    rcases ht with ht | ht
    · have hfound := typeSuffix_complete ht hr hk
      simp_all
    · exact indexer_complete (Or.inr ht) hk

end Continuations

theorem atEnd_iff {s : List Char} : atEnd s = true ↔ s = [] ∨ s = ['\n'] := by
  unfold atEnd
  split <;> simp_all

theorem startsBracketedRun_tail {g : Option (List Char)} {e : List Char} (he : atEnd e = true) :
    startsBracketedRun (argumentText g ++ e) = false := by
  cases g with
  | some a => exact startsBracketedRun_of_not_open (by decide) _
  | none => rcases atEnd_iff.1 he with rfl | rfl <;> rfl

theorem argumentsThenEnd_eq_some {s : List Char} {g : Option (List Char)} :
    argumentsThenEnd s = some g ↔
      (∀ a, g = some a → ')' ∉ a) ∧ ∃ e, s = argumentText g ++ e ∧ atEnd e = true := by
  constructor
  · intro h
    simp only [argumentsThenEnd] at h
    split at h
    · rename_i a hlist
      split at hlist
      · rename_i cs
        split at hlist
        · rename_i t hdrop
          split at hlist
          · rename_i ht
            have ha := Option.some.inj hlist
            subst ha
            have hg := Option.some.inj h
            subst hg
            -- the argument text runs up to the first closing parenthesis
            have hcs : cs = cs.takeWhile (· != ')') ++ ')' :: t := by
              rw [← hdrop, List.takeWhile_append_dropWhile]
            refine ⟨?_, t, ?_, ht⟩
            · rintro a ha hmem
              obtain rfl := Option.some.inj ha
              have hall := List.all_eq_true.1
                (show (cs.takeWhile (· != ')')).all (· != ')') = true from List.all_takeWhile) _ hmem
              simp at hall
            · simp only [argumentText, List.cons_append, List.append_assoc]
              exact congrArg _ hcs
          · simp at hlist
        · simp at hlist
      · simp at hlist
    · split at h
      · rename_i he
        obtain rfl := (Option.some.inj h).symm
        exact ⟨by simp, s, rfl, he⟩
      · simp at h
  · rintro ⟨hg, e, rfl, he⟩
    cases g with
    | none => rcases atEnd_iff.1 he with rfl | rfl <;> rfl
    | some a =>
      have hall : ∀ x ∈ a, (x != ')') = true := by
        intro x hx
        rw [bne_iff_ne]
        rintro rfl
        exact hg a rfl hx
      simp [argumentsThenEnd, argumentText, List.dropWhile_append_of_pos hall,
        List.takeWhile_append_of_pos hall, he]

theorem tailAfterMember_eq_some {shape : Shape} {s : List Char} {g : Option (List Char)} :
    tailAfterMember shape s = some g ↔
      AllowsArguments shape g ∧ ∃ e, s = argumentText g ++ e ∧ atEnd e = true := by
  cases shape with
  | container =>
    simp only [tailAfterMember]
    split
    · rename_i he
      constructor
      · intro h
        obtain rfl := (Option.some.inj h).symm
        exact ⟨trivial, s, rfl, he⟩
      · rintro ⟨hg, e, rfl, -⟩
        cases g with
        | none => rfl
        | some a => exact absurd hg id
    · rename_i he
      simp only [reduceCtorEq, false_iff, not_and, not_exists]
      intro hg e hs he'
      cases g with
      | none => exact he (hs ▸ he')
      | some a => exact absurd hg id
  | callable =>
    simp only [tailAfterMember, argumentsThenEnd_eq_some]
    cases g <;> simp [AllowsArguments]
  | constructor =>
    simp only [tailAfterMember, argumentsThenEnd_eq_some]
    cases g <;> simp [AllowsArguments]

theorem startsBracketedRun_of_tailAfterMember {shape : Shape} {r : List Char}
    {g : Option (List Char)} (h : tailAfterMember shape r = some g) :
    startsBracketedRun r = false := by
  obtain ⟨-, e, rfl, he⟩ := tailAfterMember_eq_some.1 h
  exact startsBracketedRun_tail he

theorem memberThenTail_sound {shape : Shape} {s : List Char} {n : Nat} {g : Option (List Char)}
    (h : memberThenTail shape s = some (n, g)) :
    ∃ m r, s = m ++ r ∧ r.length = n ∧ IsMember shape m ∧ tailAfterMember shape r = some g := by
  have hk : ∀ {r : List Char} {x : Nat × Option (List Char)},
      (tailAfterMember shape r).map (r.length, ·) = some x → x = (r.length, x.2) ∧
        tailAfterMember shape r = some x.2 := by
    intro r x hx
    obtain ⟨a, ha, rfl⟩ := Option.map_eq_some_iff.1 hx
    exact ⟨rfl, ha⟩
  have hname : ∀ (hm : ∀ u, IsMemberName u → IsMember shape u),
      memberName s (fun r => (tailAfterMember shape r).map (r.length, ·)) = some (n, g) →
      ∃ m r, s = m ++ r ∧ r.length = n ∧ IsMember shape m ∧ tailAfterMember shape r = some g := by
    intro hm hs
    obtain ⟨u, r, rfl, hu, hkr⟩ := memberName_sound hs
    obtain ⟨hx, ht⟩ := hk hkr
    exact ⟨u, r, rfl, (Prod.mk.inj hx).1.symm, hm u hu, ht⟩
  -- every shape reads a member name; a constructor first tries the literal name
  cases shape with
  | container => exact hname (fun _ hu => hu) h
  | callable => exact hname (fun _ hu => hu) h
  | constructor =>
    simp only [memberThenTail] at h
    split at h
    · rename_i x hlit
      split at hlit
      · rename_i hpre
        obtain ⟨r, rfl⟩ := List.isPrefixOf_iff_prefix.1 hpre
        rw [List.drop_left] at hlit
        obtain ⟨hx, ht⟩ := hk hlit
        obtain rfl := Option.some.inj h
        exact ⟨constructorName, r, rfl, (Prod.mk.inj hx).1.symm, Or.inl rfl, ht⟩
      · simp at hlit
    · exact hname (fun _ hu => Or.inr hu) h

theorem memberThenTail_complete {shape : Shape} {m r : List Char} (hm : IsMember shape m)
    (ht : (tailAfterMember shape r).isSome) : (memberThenTail shape (m ++ r)).isSome := by
  obtain ⟨g, hg⟩ := Option.isSome_iff_exists.1 ht
  have hr := startsBracketedRun_of_tailAfterMember hg
  have hk : ((tailAfterMember shape r).map (r.length, ·)).isSome := by simp [hg]
  cases shape with
  | container => exact memberName_complete hm hr hk
  | callable => exact memberName_complete hm hr hk
  | constructor =>
    simp only [memberThenTail]
    split
    · rfl
    · rename_i hlit
      -- the literal constructor name is tried first and answered, unless the member is a name
      rcases hm with rfl | hm
      · have hpre : constructorName.isPrefixOf (constructorName ++ r) = true :=
          List.isPrefixOf_iff_prefix.2 ⟨r, rfl⟩
        simp only [hpre, if_true, List.drop_left] at hlit
        rw [hlit] at hk
        exact absurd hk (by simp)
      · exact memberName_complete hm hr hk

theorem readUnqualified_sound {shape : Shape} {s m : List Char} {g : Option (List Char)}
    (h : readUnqualified shape s = some (m, g)) :
    IsMember shape m ∧ AllowsArguments shape g ∧
      ∃ e, s = m ++ argumentText g ++ e ∧ atEnd e = true := by
  obtain ⟨⟨n, a⟩, hmt, hx⟩ := Option.map_eq_some_iff.1 h
  obtain ⟨u, r, rfl, rfl, hu, ht⟩ := memberThenTail_sound hmt
  obtain ⟨hm, hg⟩ := Prod.mk.inj hx
  have hmu : m = u := by
    rw [← hm, List.length_append, Nat.add_sub_cancel, List.take_left]
  subst hmu hg
  obtain ⟨hallow, e, rfl, he⟩ := tailAfterMember_eq_some.1 ht
  exact ⟨hu, hallow, e, by simp, he⟩

theorem readUnqualified_complete {shape : Shape} {m e : List Char} {g : Option (List Char)}
    (hm : IsMember shape m) (hg : AllowsArguments shape g) (he : atEnd e = true) :
    (readUnqualified shape (m ++ argumentText g ++ e)).isSome := by
  have ht : (tailAfterMember shape (argumentText g ++ e)).isSome :=
    Option.isSome_iff_exists.2 ⟨g, tailAfterMember_eq_some.2 ⟨hg, e, rfl, he⟩⟩
  have hs := memberThenTail_complete hm ht
  rw [List.append_assoc]
  simpa [readUnqualified] using hs

end NetApiDoc.Signature
