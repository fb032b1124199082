import NetApiDoc.Text.Dotted

set_option autoImplicit false

namespace NetApiDoc.Reference

structure RefPart where
  name : String
  target : Option String
  deriving DecidableEq, Repr

def beforeCloseAtEnd? (close : Char) (t : List Char) : Option (List Char) :=
  if t.getLast? == some close then some t.dropLast
  else if t.getLast? == some '\n' && t.dropLast.getLast? == some close then
    some t.dropLast.dropLast
  else none

def closedAtEnd? (close : Char) (t : List Char) : Option (List Char) :=
  match beforeCloseAtEnd? close t with
  | some i => if i.isEmpty || i.contains '\n' then none else some i
  | none => none

def nestedSplit? (s : List Char) : Option (List Char × List Char) :=
  match s.dropWhile (· != '{') with
  | _ :: t =>
    if (s.takeWhile (· != '{')).isEmpty then none
    else (closedAtEnd? '}' t).map ((s.takeWhile (· != '{')), ·)
  | [] => none

def aliasSplitAfter (seen : List Char) : List Char → Option (List Char × List Char)
  | [] => none
  | c :: cs =>
    if c == '{' then none
    else if c == '<' && !seen.isEmpty then
      match closedAtEnd? '>' cs with
      | some a => some (seen.reverse, a)
      | none => aliasSplitAfter (c :: seen) cs
    else aliasSplitAfter (c :: seen) cs

def RefPart.ofChars (s : List Char) : RefPart :=
  match aliasSplitAfter [] s with
  | some (n, a) => ⟨String.ofList n, some (String.ofList a)⟩
  | none => ⟨String.ofList s, none⟩

theorem length_lt_of_beforeCloseAtEnd? {close : Char} {t i : List Char}
    (h : beforeCloseAtEnd? close t = some i) : i.length < t.length := by
  have hne : t ≠ [] := by
    rintro rfl
    simp [beforeCloseAtEnd?] at h
  have hpos : 0 < t.length := List.length_pos_iff.2 hne
  unfold beforeCloseAtEnd? at h
  split at h
  · cases h
    simp only [List.length_dropLast]
    omega
  · split at h
    · cases h
      simp only [List.length_dropLast]
      omega
    · simp at h

theorem length_lt_of_closedAtEnd? {close : Char} {t i : List Char}
    (h : closedAtEnd? close t = some i) : i.length < t.length := by
  unfold closedAtEnd? at h
  split at h
  · next i' hi =>
    split at h
    · simp at h
    · cases h
      exact length_lt_of_beforeCloseAtEnd? hi
  · simp at h

theorem length_lt_of_nestedSplit? {s p i : List Char} (h : nestedSplit? s = some (p, i)) :
    i.length < s.length := by
  unfold nestedSplit? at h
  split at h
  · next c t ht =>
    split at h
    · simp at h
    · obtain ⟨i', hi', he⟩ := Option.map_eq_some_iff.1 h
      cases he
      have h1 := length_lt_of_closedAtEnd? hi'
      have h2 : (s.dropWhile (· != '{')).length ≤ s.length := (List.dropWhile_suffix _).length_le
      rw [ht] at h2
      simp only [List.length_cons] at h2
      omega
  · simp at h

def splitRefs (s : List Char) : List RefPart :=
  match h : nestedSplit? s with
  | some (parent, inner) =>
    have : inner.length < s.length := length_lt_of_nestedSplit? h
    RefPart.ofChars parent :: splitRefs inner
  | none => [RefPart.ofChars s]
termination_by s.length

def split (target : String) : List RefPart :=
  splitRefs target.toList

end NetApiDoc.Reference
