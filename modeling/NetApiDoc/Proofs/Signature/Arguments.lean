import NetApiDoc.Signature.Basic
import NetApiDoc.Proofs.Signature.Language

set_option autoImplicit false

namespace NetApiDoc.Signature

open NetApiDoc.Text

def HasSeparator (p : List Char) : Prop := ∃ x c y, p = x ++ ',' :: c :: y ∧ isBlank c = true

def StartsBlank (r : List Char) : Prop := ∃ c y, r = c :: y ∧ isBlank c = true

inductive SplitsInto : List Char → List (List Char) → Prop
  | last {p : List Char} : ¬ HasSeparator p → SplitsInto p [p]
  | cut {p b rest : List Char} {ps : List (List Char)} : ¬ HasSeparator p → IsRun isBlank b →
      ¬ StartsBlank rest → SplitsInto rest ps → SplitsInto (p ++ ',' :: (b ++ rest)) (p :: ps)

theorem hasSeparator_cons {c : Char} {p : List Char} :
    HasSeparator (c :: p) ↔ (c = ',' ∧ StartsBlank p) ∨ HasSeparator p := by
  constructor
  · rintro ⟨x, d, y, split, blank⟩
    cases x with
    | nil =>
      obtain ⟨rfl, rfl⟩ := List.cons.inj split
      exact Or.inl ⟨rfl, d, y, rfl, blank⟩
    | cons e x =>
      obtain ⟨rfl, rfl⟩ := List.cons.inj split
      exact Or.inr ⟨x, d, y, rfl, blank⟩
  · rintro (⟨rfl, d, y, rfl, blank⟩ | ⟨x, d, y, rfl, blank⟩)
    · exact ⟨[], d, y, rfl, blank⟩
    · exact ⟨c :: x, d, y, rfl, blank⟩

theorem not_hasSeparator_nil : ¬ HasSeparator [] := by
  rintro ⟨x, c, y, split, -⟩
  cases x <;> simp at split

theorem startsBlank_of_isRun {b rest : List Char} (blanks : IsRun isBlank b) :
    StartsBlank (b ++ rest) := by
  cases b with
  | nil => exact absurd rfl blanks.1
  | cons c b => exact ⟨c, b ++ rest, rfl, blanks.2 c List.mem_cons_self⟩

theorem not_startsBlank_comma (r : List Char) : ¬ StartsBlank (',' :: r) := by
  rintro ⟨c, y, split, blank⟩
  obtain ⟨rfl, -⟩ := List.cons.inj split
  exact absurd blank (by decide)

theorem not_startsBlank_dropWhile (r : List Char) : ¬ StartsBlank (r.dropWhile isBlank) := by
  rintro ⟨c, y, split, blank⟩
  have stop := List.head?_dropWhile_not isBlank r
  rw [split] at stop
  simp [blank] at stop

theorem cut_position_unique {p p' x x' : List Char} (clean : ¬ HasSeparator p)
    (clean' : ¬ HasSeparator p') (blank : StartsBlank x) (blank' : StartsBlank x')
    (same : p ++ ',' :: x = p' ++ ',' :: x') : p = p' ∧ x = x' := by
  -- a cut further right than the other would leave the other's separator in its piece
  have shorter : ∀ {p p' x x' : List Char}, ¬ HasSeparator p' → StartsBlank x →
      ∀ a, p' = p ++ a → ',' :: x = a ++ ',' :: x' → a = [] := by
    intro p p' x x' clean' blank a hp hx
    cases a with
    | nil => rfl
    | cons d a =>
      obtain ⟨rfl, rfl⟩ := List.cons.inj hx
      cases a with
      | nil => exact absurd blank (not_startsBlank_comma x')
      | cons e a =>
        obtain ⟨c, y, hc, hblank⟩ := blank
        obtain ⟨rfl, -⟩ := List.cons.inj hc
        exact absurd ⟨p, e, a, hp, hblank⟩ clean'
  rcases List.append_eq_append_iff.1 same with ⟨a, hp, hx⟩ | ⟨a, hp, hx⟩
  · obtain rfl := shorter clean' blank a hp hx
    simp_all
  · obtain rfl := shorter clean blank' a hp hx
    simp_all

theorem blank_run_unique {b b' rest rest' : List Char} (blanks : IsRun isBlank b)
    (blanks' : IsRun isBlank b') (stop : ¬ StartsBlank rest) (stop' : ¬ StartsBlank rest')
    (same : b ++ rest = b' ++ rest') : b = b' ∧ rest = rest' := by
  have longer : ∀ {b b' rest rest' : List Char}, IsRun isBlank b' → ¬ StartsBlank rest →
      ∀ a, b' = b ++ a → rest = a ++ rest' → a = [] := by
    intro b b' rest rest' blanks' stop a hb hr
    cases a with
    | nil => rfl
    | cons c a =>
      exact absurd ⟨c, a ++ rest', hr, blanks'.2 c (by simp [hb])⟩ stop
  rcases List.append_eq_append_iff.1 same with ⟨a, hb, hr⟩ | ⟨a, hb, hr⟩
  · obtain rfl := longer blanks' stop a hb hr
    simp_all
  · obtain rfl := longer blanks stop' a hb hr
    simp_all

theorem hasSeparator_cut {p b rest : List Char} (blanks : IsRun isBlank b) :
    HasSeparator (p ++ ',' :: (b ++ rest)) := by
  obtain ⟨c, y, split, blank⟩ := @startsBlank_of_isRun b rest blanks
  exact ⟨p, c, y, by rw [split], blank⟩

theorem splitsInto_unique {g : List Char} {ps qs : List (List Char)} (h : SplitsInto g ps)
    (h' : SplitsInto g qs) : ps = qs := by
  induction h generalizing qs with
  | last clean =>
    cases h' with
    | last _ => rfl
    | cut _ blanks _ _ => exact absurd (hasSeparator_cut blanks) clean
  | @cut p b rest ps clean blanks stop _ ih =>
    generalize text : p ++ ',' :: (b ++ rest) = g at h'
    cases h' with
    | last clean' => exact absurd (text ▸ hasSeparator_cut blanks) clean'
    | cut clean' blanks' stop' rest' =>
      obtain ⟨rfl, same⟩ := cut_position_unique clean clean' (startsBlank_of_isRun blanks)
        (startsBlank_of_isRun blanks') text
      obtain ⟨rfl, rfl⟩ := blank_run_unique blanks blanks' stop stop' same
      rw [ih rest']

theorem argumentPiecesFrom_skipping (s : List Char) :
    argumentPiecesFrom true s = argumentPiecesFrom false (s.dropWhile isBlank) := by
  induction s with
  | nil => rfl
  | cons c cs ih =>
    by_cases blank : isBlank c = true
    · simp [argumentPiecesFrom, blank, ih]
    · simp [argumentPiecesFrom, blank]

theorem isRun_takeWhile_blank {d : Char} {ds : List Char} (blank : isBlank d = true) :
    IsRun isBlank (d :: ds.takeWhile isBlank) := by
  refine isRun_cons.2 ⟨blank, ?_⟩
  by_cases empty : ds.takeWhile isBlank = []
  · exact Or.inl empty
  · exact Or.inr ⟨empty, fun c hc => by simpa using List.all_eq_true.1 List.all_takeWhile c hc⟩

theorem not_hasSeparator_cons {c d : Char} {p ds y : List Char} (sep : ¬ (c = ',' ∧ isBlank d = true))
    (clean : ¬ HasSeparator p) (text : p ++ y = d :: ds) : ¬ HasSeparator (c :: p) := by
  rw [hasSeparator_cons]
  rintro (⟨rfl, e, z, rfl, blank⟩ | has)
  · obtain ⟨rfl, -⟩ := List.cons.inj text
    exact sep ⟨rfl, blank⟩
  · exact clean has

theorem splitsInto_argumentPieces (s : List Char) : SplitsInto s (argumentPiecesFrom false s) := by
  -- strong induction on the length: after a cut the splitter resumes past the blanks it drops
  obtain ⟨n, length⟩ : ∃ n, s.length = n := ⟨_, rfl⟩
  induction n using Nat.strongRecOn generalizing s with
  | ind n ih =>
  match s with
  | [] => exact .last not_hasSeparator_nil
  | [c] =>
    have clean : ¬ HasSeparator [c] := by
      rw [hasSeparator_cons]
      rintro (⟨-, e, z, text, -⟩ | has)
      · simp at text
      · exact not_hasSeparator_nil has
    simpa [argumentPiecesFrom] using SplitsInto.last clean
  | c :: d :: ds =>
    by_cases sep : c = ',' ∧ isBlank d = true
    · obtain ⟨rfl, blank⟩ := sep
      have pieces : argumentPiecesFrom false (',' :: d :: ds) =
          [] :: argumentPiecesFrom false (ds.dropWhile isBlank) := by
        simp [argumentPiecesFrom, blank, argumentPiecesFrom_skipping]
      have text : ',' :: d :: ds = [] ++ ',' :: ((d :: ds.takeWhile isBlank) ++ ds.dropWhile isBlank) := by
        simp
      have shorter : (ds.dropWhile isBlank).length < n := by
        have := (show ds.dropWhile isBlank <:+ ds from List.dropWhile_suffix isBlank).length_le
        simp only [List.length_cons] at length
        omega
      rw [pieces, text]
      exact .cut not_hasSeparator_nil (isRun_takeWhile_blank blank) (not_startsBlank_dropWhile ds)
        (ih _ shorter _ rfl)
    · have cond : (c == ',' && isBlank d) = false := by
        by_cases comma : c = ','
        · have blank : isBlank d = false := by simpa using fun h => sep ⟨comma, h⟩
          simp [blank]
        · simp [comma]
      have rest := ih (d :: ds).length (by simp only [List.length_cons] at length ⊢; omega) _ rfl
      rw [argumentPiecesFrom.eq_2]
      simp only [Bool.false_and, Bool.false_eq_true, if_false, cond]
      generalize argumentPiecesFrom false (d :: ds) = pieces at rest ⊢
      generalize whole : d :: ds = t at rest
      cases rest with
      | last clean =>
        exact .last (not_hasSeparator_cons sep clean (by rw [List.append_nil]; exact whole.symm))
      | cut clean blanks stop more =>
        rw [← List.cons_append]
        exact .cut (not_hasSeparator_cons sep clean whole.symm) blanks stop more

theorem splitArguments_splitsInto (text : String) :
    SplitsInto text.toList ((splitArguments text).map String.toList) := by
  have roundTrip : (String.toList ∘ String.ofList) = id := funext fun _ => String.toList_ofList
  simpa [splitArguments, List.map_map, roundTrip] using splitsInto_argumentPieces text.toList

theorem splitArguments_eq_iff (text : String) (ps : List (List Char)) :
    (splitArguments text).map String.toList = ps ↔ SplitsInto text.toList ps :=
  ⟨fun h => h ▸ splitArguments_splitsInto text,
    fun h => splitsInto_unique (splitArguments_splitsInto text) h⟩

end NetApiDoc.Signature
