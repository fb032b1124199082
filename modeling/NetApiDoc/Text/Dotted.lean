/-!
Dotted names such as `System.Collections.Generic`: splitting at the last separator, and the last
part of a name.
-/

set_option autoImplicit false

namespace NetApiDoc.Text

def splitAtLast (sep : Char) : List Char → Option (List Char × List Char)
  | [] => none
  | c :: cs =>
    match splitAtLast sep cs with
    | some (a, b) => some (c :: a, b)
    | none => if c == sep then some ([], cs) else none

def lastPart (s : List Char) : List Char :=
  match splitAtLast '.' s with
  | some (_, b) => b
  | none => s

theorem splitAtLast_eq {sep : Char} {s a b : List Char} (h : splitAtLast sep s = some (a, b)) :
    s = a ++ sep :: b := by
  induction s generalizing a b with
  | nil => simp [splitAtLast] at h
  | cons c cs ih =>
    simp only [splitAtLast] at h
    split at h
    · next a' b' h' =>
      cases h
      simp [ih h']
    · split at h
      · next hc =>
        cases h
        simp_all
      · simp at h

end NetApiDoc.Text
