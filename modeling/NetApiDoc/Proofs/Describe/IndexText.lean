import NetApiDoc.Describe.Signature
import NetApiDoc.Domain.Tables

set_option autoImplicit false

namespace NetApiDoc.Describe

open NetApiDoc.Text

def memberIndexText (kindName : String) (qualifier : Option String) (member : String) : String :=
  match qualifier with
  | some q => member ++ " (" ++ q ++ " " ++ kindName ++ ")"
  | none => member ++ " (" ++ kindName ++ ")"

/-- How an index text names a member under a qualifier: whole when the member has no dot, and
otherwise by the part after its last dot, under the qualifier and the rest of the member. -/
structure NamesMember (text kindName : String) (qualifier : Option String) (member : String) :
    Prop where
  whole : '.' ∉ member.toList → text = memberIndexText kindName qualifier member
  cut : ∀ front last, member.toList = front ++ '.' :: last → '.' ∉ last →
    text = memberIndexText kindName (some (Signature.fullName ⟨qualifier, String.ofList front, none⟩))
      (String.ofList last)

theorem splitAtLast_of_not_mem {sep : Char} {s : List Char} (absent : sep ∉ s) :
    splitAtLast sep s = none := by
  induction s with
  | nil => rfl
  | cons c cs ih =>
    simp only [List.mem_cons, not_or] at absent
    simp [splitAtLast, ih absent.2, Ne.symm absent.1]

theorem splitAtLast_append_of_not_mem {sep : Char} (a : List Char) {b : List Char}
    (absent : sep ∉ b) : splitAtLast sep (a ++ sep :: b) = some (a, b) := by
  induction a with
  | nil => simp [splitAtLast, splitAtLast_of_not_mem absent]
  | cons c cs ih => simp [splitAtLast, ih]

theorem indexText_of_no_dot (kindName name : String) (plain : '.' ∉ name.toList) :
    Domain.indexText (some kindName) name = memberIndexText kindName none name := by
  simp [Domain.indexText, memberIndexText, splitAtLast_of_not_mem plain]

theorem indexText_of_last_dot (kindName front last : String) (plain : '.' ∉ last.toList) :
    Domain.indexText (some kindName) (front ++ "." ++ last) =
      memberIndexText kindName (some front) last := by
  have cut : splitAtLast '.' (front ++ "." ++ last).toList = some (front.toList, last.toList) := by
    simpa using splitAtLast_append_of_not_mem front.toList plain
  simp only [Domain.indexText, cut, Option.getD_some, String.ofList_toList, memberIndexText]

theorem indexText_fullName (kindName : String) (sig : Signature) :
    NamesMember (Domain.indexText (some kindName) sig.fullName) kindName sig.qualifier
      sig.member := by
  obtain ⟨qualifier, member, arguments⟩ := sig
  constructor
  · intro plain
    cases qualifier with
    | none => exact indexText_of_no_dot kindName member plain
    | some q => exact indexText_of_last_dot kindName q member plain
  · -- the full name is the full name of the member's front, a dot and its last part
    intro front last split plain
    have whole : (Signature.fullName ⟨qualifier, member, arguments⟩) =
        Signature.fullName ⟨qualifier, String.ofList front, none⟩ ++ "." ++ String.ofList last := by
      have member_eq : member = String.ofList front ++ "." ++ String.ofList last := by
        rw [← String.toList_inj, split]
        simp
      cases qualifier <;> simp [Signature.fullName, member_eq, String.append_assoc]
    rw [whole]
    exact indexText_of_last_dot kindName _ _ (by simpa using plain)

theorem describe_ok {k : Kind} {flags : List String} {context : Option String} {line : String}
    {d : Described} (described : describe k flags context line = .ok d) :
    ∃ sig, Signature.read k.shape (String.ofList (stripBlanks line.toList)) = .ok sig ∧
      d.signature = { sig with qualifier := context.or sig.qualifier } ∧
      d.name.1 = d.signature.fullName := by
  unfold describe at described
  cases read : Signature.read k.shape (String.ofList (stripBlanks line.toList)) with
  | error e =>
    rw [read] at described
    cases described
  | ok sig =>
    simp only [read, bind, Except.bind, pure, Except.pure, Except.ok.injEq] at described
    subst described
    refine ⟨sig, rfl, ?_, ?_⟩
    · cases context <;> rfl
    · by_cases container : k.isContainer = true <;> simp [container]

/-- The index text of a described object names its member whole, under the prefix it was
described with, exactly when the member has no dot; a dotted member is cut at its last dot. -/
theorem indexText_names_described_member (k : Kind) (flags : List String)
    (context : Option String) (line : String) (d : Described)
    (described : describe k flags context line = .ok d) :
    ∃ sig, Signature.read k.shape (String.ofList (stripBlanks line.toList)) = .ok sig ∧
      NamesMember (Domain.indexText (some k.longName) d.name.1) k.longName
        (context.or sig.qualifier) sig.member := by
  obtain ⟨sig, read, signature, name⟩ := describe_ok described
  refine ⟨sig, read, ?_⟩
  rw [name, signature]
  exact indexText_fullName k.longName _

theorem indexText_names_described_member_at_indexer :
    ∃ d, describe .prop [] none "Ns.Lists.Item[System.String]" = .ok d ∧
      Domain.indexText (some "property") d.name.1 = "String] (Ns.Lists.Item[System property)" := by
  obtain ⟨d, described⟩ : ∃ d, describe .prop [] none "Ns.Lists.Item[System.String]" = .ok d :=
    exists_ok_of_toOption (by decide +kernel)
  obtain ⟨sig, read, names⟩ := indexText_names_described_member .prop [] none _ d described
  have parsed : sig = ⟨some "Ns.Lists", "Item[System.String]", none⟩ := by
    have evaluated : Signature.read Kind.prop.shape
        (String.ofList (stripBlanks "Ns.Lists.Item[System.String]".toList)) =
          .ok ⟨some "Ns.Lists", "Item[System.String]", none⟩ :=
      eq_ok_of_toOption (by decide +kernel)
    rw [evaluated] at read
    cases read
    rfl
  subst parsed
  exact ⟨d, described, names.cut "Item[System".toList "String]".toList (by decide) (by decide)⟩

end NetApiDoc.Describe
