import NetApiDoc.Signature.Parse

set_option autoImplicit false

namespace NetApiDoc.Signature

open NetApiDoc.Text

def IsRun (p : Char → Bool) (u : List Char) : Prop := u ≠ [] ∧ ∀ c ∈ u, p c = true

def IsBracketed (u : List Char) : Prop :=
  ∃ o w c, u = o :: (w ++ [c]) ∧ isOpenBracket o = true ∧ w ≠ [] ∧ '\n' ∉ w ∧
    isCloseBracket c = true

def IsArgument (u : List Char) : Prop := IsRun isWordChar u ∨ IsBracketed u

def IsOptionalBlank (b : List Char) : Prop := b = [] ∨ ∃ c, b = [c] ∧ isBlank c = true

def IsSeparatedArgument (u : List Char) : Prop :=
  ∃ b a, u = ',' :: (b ++ a) ∧ IsOptionalBlank b ∧ IsArgument a

inductive IsMoreArguments : List Char → Prop
  | nil : IsMoreArguments []
  | cons {a u : List Char} : IsSeparatedArgument a → IsMoreArguments u → IsMoreArguments (a ++ u)

def IsGeneric (u : List Char) : Prop :=
  ∃ o a m c, u = o :: (a ++ m ++ [c]) ∧ isOpenBracket o = true ∧ IsArgument a ∧
    IsMoreArguments m ∧ isCloseBracket c = true

def IsTicked (t u : List Char) : Prop := ∃ d, u = t ++ d ∧ IsRun isDecimalDigit d

def IsDimension (u : List Char) : Prop :=
  ∃ x y, u = x ++ y ∧ (x = [] ∨ IsTicked ['`'] x) ∧ (y = [] ∨ IsTicked ['`', '`'] y)

def IsTypeSuffix (u : List Char) : Prop := IsDimension u ∨ IsGeneric u

def IsIndexer (u : List Char) : Prop :=
  ∃ w t, u = '[' :: (w ++ t ++ [']']) ∧ IsRun isIndexerChar w ∧ IsTypeSuffix t

def IsMemberName (u : List Char) : Prop :=
  ∃ n t, u = n ++ t ∧ IsRun isNameChar n ∧ (IsTypeSuffix t ∨ IsIndexer t)

def IsMember : Shape → List Char → Prop
  | .constructor, u => u = constructorName ∨ IsMemberName u
  | .container, u => IsMemberName u
  | .callable, u => IsMemberName u

def argumentText : Option (List Char) → List Char
  | some g => '(' :: (g ++ [')'])
  | none => []

def AllowsArguments : Shape → Option (List Char) → Prop
  | _, none => True
  | .container, some _ => False
  | .callable, some g => ')' ∉ g
  | .constructor, some g => ')' ∉ g

/-- A text read as a member of the shape followed by an argument list. -/
def ReadsAs (shape : Shape) (r m : List Char) (g : Option (List Char)) : Prop :=
  r = m ++ argumentText g ∧ IsMember shape m ∧ AllowsArguments shape g

/-- The member language of a shape: the texts that read as a member and its argument list. -/
def InLanguage (shape : Shape) (r : List Char) : Prop := ∃ m g, ReadsAs shape r m g

/-- A qualifier of a line: a nonempty newline-free text before a dot, after which the line is
in the member language. -/
def IsQualifier (shape : Shape) (s p : List Char) : Prop :=
  ∃ r, s = p ++ '.' :: r ∧ p ≠ [] ∧ '\n' ∉ p ∧ InLanguage shape r

def qualifierText : Option (List Char) → List Char
  | some p => p ++ ['.']
  | none => []

def dropFinalNewline (s : List Char) : List Char :=
  if s.getLast? = some '\n' then s.dropLast else s

/-- How a line reads: the qualifier, member and argument list spell it out, and the qualifier is
the longest there is, or there is none at all. -/
def IsReading (shape : Shape) (s : List Char) (q : Option (List Char)) (m : List Char)
    (g : Option (List Char)) : Prop :=
  s = qualifierText q ++ m ++ argumentText g ∧ IsMember shape m ∧ AllowsArguments shape g ∧
    match q with
    | some p => p ≠ [] ∧ '\n' ∉ p ∧ ∀ p', IsQualifier shape s p' → p'.length ≤ p.length
    | none => ∀ p', ¬ IsQualifier shape s p'

theorem isRun_cons {p : Char → Bool} {c : Char} {u : List Char} :
    IsRun p (c :: u) ↔ p c = true ∧ (u = [] ∨ IsRun p u) := by
  constructor
  · rintro ⟨-, h⟩
    refine ⟨h c (by simp), ?_⟩
    cases u with
    | nil => exact Or.inl rfl
    | cons d u => exact Or.inr ⟨by simp, fun x hx => h x (List.mem_cons_of_mem c hx)⟩
  · rintro ⟨hc, rfl | ⟨-, hu⟩⟩
    · exact ⟨by simp, by simpa using hc⟩
    · exact ⟨by simp, by simpa [hc] using hu⟩

theorem not_isRun_nil {p : Char → Bool} : ¬ IsRun p [] := fun h => h.1 rfl

def EndsCleanly (u : List Char) : Prop := ∀ c, u.getLast? = some c → c ≠ '\n' ∧ c ≠ ')'

theorem endsCleanly_nil : EndsCleanly [] := by
  intro c h
  simp at h

theorem endsCleanly_append {u v : List Char} (hu : EndsCleanly u) (hv : EndsCleanly v) :
    EndsCleanly (u ++ v) := by
  intro c h
  rw [List.getLast?_append] at h
  cases hlast : v.getLast? with
  | none => simp only [hlast] at h; exact hu c h
  | some d => simp only [hlast, Option.some_or, Option.some.injEq] at h; exact hv c (h ▸ hlast)

theorem endsCleanly_append_singleton {u : List Char} {c : Char} (hc : c ≠ '\n' ∧ c ≠ ')') :
    EndsCleanly (u ++ [c]) := by
  intro d h
  simp only [List.getLast?_append, List.getLast?_singleton, Option.some_or,
    Option.some.injEq] at h
  exact h ▸ hc

theorem isRun_endsCleanly {p : Char → Bool} {u : List Char} (h : IsRun p u)
    (hp : ∀ c, p c = true → c ≠ '\n' ∧ c ≠ ')') : EndsCleanly u := by
  intro c hc
  exact hp c (h.2 c (List.mem_of_getLast? hc))

theorem isNameChar_clean (c : Char) (h : isNameChar c = true) : c ≠ '\n' ∧ c ≠ ')' := by
  constructor <;> rintro rfl <;> exact absurd h (by decide)

theorem isDecimalDigit_clean (c : Char) (h : isDecimalDigit c = true) : c ≠ '\n' ∧ c ≠ ')' := by
  constructor <;> rintro rfl <;> exact absurd h (by decide)

theorem isCloseBracket_clean (c : Char) (h : isCloseBracket c = true) : c ≠ '\n' ∧ c ≠ ')' := by
  simp only [isCloseBracket, Bool.or_eq_true, beq_iff_eq] at h
  rcases h with rfl | rfl <;> decide

theorem endsCleanly_append_of_ne_nil {u v : List Char} (hv : v ≠ []) (h : EndsCleanly v) :
    EndsCleanly (u ++ v) := by
  intro c hc
  obtain ⟨x, hx⟩ := Option.isSome_iff_exists.mp (List.getLast?_isSome.mpr hv)
  rw [List.getLast?_append, hx, Option.some_or] at hc
  exact h c (hc ▸ hx)

theorem isTicked_endsCleanly {t u : List Char} (h : IsTicked t u) : EndsCleanly u := by
  obtain ⟨d, rfl, hd⟩ := h
  exact endsCleanly_append_of_ne_nil hd.1 (isRun_endsCleanly hd isDecimalDigit_clean)

theorem isDimension_endsCleanly {u : List Char} (h : IsDimension u) : EndsCleanly u := by
  obtain ⟨x, y, rfl, hx, hy⟩ := h
  apply endsCleanly_append
  · rcases hx with rfl | hx
    · exact endsCleanly_nil
    · exact isTicked_endsCleanly hx
  · rcases hy with rfl | hy
    · exact endsCleanly_nil
    · exact isTicked_endsCleanly hy

theorem isGeneric_endsCleanly {u : List Char} (h : IsGeneric u) : EndsCleanly u := by
  obtain ⟨o, a, m, c, rfl, -, -, -, hc⟩ := h
  rw [← List.cons_append]
  exact endsCleanly_append_singleton (isCloseBracket_clean c hc)

theorem isTypeSuffix_endsCleanly {u : List Char} (h : IsTypeSuffix u) : EndsCleanly u :=
  h.elim isDimension_endsCleanly isGeneric_endsCleanly

theorem isIndexer_endsCleanly {u : List Char} (h : IsIndexer u) : EndsCleanly u := by
  obtain ⟨w, t, rfl, -, -⟩ := h
  rw [← List.cons_append]
  exact endsCleanly_append_singleton (by decide)

theorem isMemberName_endsCleanly {u : List Char} (h : IsMemberName u) : EndsCleanly u := by
  obtain ⟨n, t, rfl, hn, ht⟩ := h
  apply endsCleanly_append (isRun_endsCleanly hn isNameChar_clean)
  exact ht.elim isTypeSuffix_endsCleanly isIndexer_endsCleanly

theorem isMemberName_ne_nil {u : List Char} (h : IsMemberName u) : u ≠ [] := by
  obtain ⟨n, t, rfl, hn, -⟩ := h
  simp [hn.1]

theorem isMember_endsCleanly {shape : Shape} {u : List Char} (h : IsMember shape u) :
    u ≠ [] ∧ EndsCleanly u := by
  cases shape with
  | container => exact ⟨isMemberName_ne_nil h, isMemberName_endsCleanly h⟩
  | callable => exact ⟨isMemberName_ne_nil h, isMemberName_endsCleanly h⟩
  | constructor =>
    rcases h with rfl | h
    · refine ⟨by simp [constructorName], ?_⟩
      intro c hc
      simp only [constructorName, List.getLast?_cons_cons, List.getLast?_singleton,
        Option.some.injEq] at hc
      subst hc
      decide
    · exact ⟨isMemberName_ne_nil h, isMemberName_endsCleanly h⟩

end NetApiDoc.Signature
