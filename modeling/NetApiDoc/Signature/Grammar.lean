import NetApiDoc.Text.Word
import NetApiDoc.Text.Digit
import NetApiDoc.Text.Blank

set_option autoImplicit false

namespace NetApiDoc.Signature

open NetApiDoc.Text

abbrev Cont (β : Type) := List Char → Option β

def isNameChar (c : Char) : Bool := isWordChar c || c == '-'

def isIndexerChar (c : Char) : Bool := isNameChar c || c == '.'

def isOpenBracket (c : Char) : Bool := c == '<' || c == '{'

def isCloseBracket (c : Char) : Bool := c == '>' || c == '}'

def plusRests (p : Char → Bool) : List Char → List (List Char)
  | [] => []
  | c :: cs => if p c then cs :: plusRests p cs else []

def closeRests : List Char → List (List Char)
  | [] => []
  | c :: cs =>
    (if isCloseBracket c then [cs] else []) ++ (if c == '\n' then [] else closeRests cs)

def bracketedRests : List Char → List (List Char)
  | o :: c :: cs => if isOpenBracket o && c != '\n' then closeRests cs else []
  | _ => []

def argumentRests (s : List Char) : List (List Char) :=
  (plusRests isWordChar s).reverse ++ bracketedRests s

def optionalBlankRests : List Char → List (List Char)
  | [] => [[]]
  | c :: cs => if isBlank c then [cs, c :: cs] else [c :: cs]

def separatedArgumentRests : List Char → List (List Char)
  | ',' :: cs => (optionalBlankRests cs).flatMap argumentRests
  | _ => []

def startsBracketedRun : List Char → Bool
  | o :: c :: cs =>
    isOpenBracket o && !isCloseBracket c && (cs.dropWhile (!isCloseBracket ·)) != []
  | _ => false

/-- The close of a generic argument list, which must not be followed directly by another
bracketed list. -/
def closeGeneric {β : Type} (s : List Char) (k : Cont β) : Option β :=
  match s with
  | c :: cs => if isCloseBracket c && !startsBracketedRun cs then k cs else none
  | [] => none

theorem mem_plusRests_length {p : Char → Bool} {s r : List Char} (h : r ∈ plusRests p s) :
    r.length < s.length := by
  induction s with
  | nil => simp [plusRests] at h
  | cons c cs ih =>
    simp only [plusRests] at h
    split at h
    · rcases List.mem_cons.1 h with rfl | h
      · simp
      · exact Nat.lt_succ_of_lt (ih h)
    · simp at h

theorem mem_closeRests_length {s r : List Char} (h : r ∈ closeRests s) :
    r.length < s.length := by
  induction s with
  | nil => simp [closeRests] at h
  | cons c cs ih =>
    simp only [closeRests, List.mem_append] at h
    rcases h with h | h
    · split at h
      · simp_all
      · simp at h
    · split at h
      · simp at h
      · exact Nat.lt_succ_of_lt (ih h)

theorem mem_bracketedRests_length {s r : List Char} (h : r ∈ bracketedRests s) :
    r.length < s.length := by
  unfold bracketedRests at h
  split at h
  · split at h
    · have := mem_closeRests_length h
      simp only [List.length_cons]
      omega
    · simp at h
  · simp at h

theorem mem_argumentRests_length {s r : List Char} (h : r ∈ argumentRests s) :
    r.length < s.length := by
  simp only [argumentRests, List.mem_append, List.mem_reverse] at h
  rcases h with h | h
  · exact mem_plusRests_length h
  · exact mem_bracketedRests_length h

theorem mem_optionalBlankRests_length {s r : List Char} (h : r ∈ optionalBlankRests s) :
    r.length ≤ s.length := by
  unfold optionalBlankRests at h
  split at h
  · simp_all
  · split at h <;> simp at h <;> rcases h with rfl | rfl <;> simp

theorem mem_separatedArgumentRests_length {s r : List Char}
    (h : r ∈ separatedArgumentRests s) : r.length < s.length := by
  unfold separatedArgumentRests at h
  split at h
  · obtain ⟨m, hm, hr⟩ := List.mem_flatMap.1 h
    have h1 := mem_optionalBlankRests_length hm
    have h2 := mem_argumentRests_length hr
    simp only [List.length_cons]
    omega
  · simp at h

def moreArguments {β : Type} (s : List Char) (k : Cont β) : Option β :=
  match closeGeneric s k with
  | some b => some b
  | none =>
    (separatedArgumentRests s).attach.findSome? fun ⟨r, _⟩ => moreArguments r k
termination_by s.length
decreasing_by exact mem_separatedArgumentRests_length (by assumption)

def generic {β : Type} (s : List Char) (k : Cont β) : Option β :=
  match s with
  | o :: cs =>
    if isOpenBracket o then (argumentRests cs).findSome? fun r => moreArguments r k else none
  | [] => none

def tickedDigitsRests (t : List Char) (s : List Char) : List (List Char) :=
  if t.isPrefixOf s then (plusRests isDecimalDigit (s.drop t.length)).reverse else []

def dimensionRests (s : List Char) : List (List Char) :=
  (tickedDigitsRests ['`'] s ++ [s]).flatMap fun r => tickedDigitsRests ['`', '`'] r ++ [r]

def typeSuffix {β : Type} (s : List Char) (k : Cont β) : Option β :=
  match (dimensionRests s).findSome? k with
  | some b => some b
  | none => generic s k

def indexer {β : Type} (s : List Char) (k : Cont β) : Option β :=
  let bracketed : Option β :=
    match s with
    | '[' :: cs =>
      (plusRests isIndexerChar cs).findSome? fun r =>
        typeSuffix r fun t => match t with
          | ']' :: u => k u
          | _ => none
    | _ => none
  match bracketed with
  | some b => some b
  | none => k s

def memberName {β : Type} (s : List Char) (k : Cont β) : Option β :=
  (plusRests isNameChar s).findSome? fun r =>
    match typeSuffix r k with
    | some b => some b
    | none => indexer r k

end NetApiDoc.Signature
