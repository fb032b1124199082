import NetApiDoc.Reference.Link
import NetApiDoc.Proofs.Reference.Tree

set_option autoImplicit false

namespace NetApiDoc.Reference

open NetApiDoc.Text

/-- A name that an operator may lead in a reference: nonempty, without blanks, `{`, `<` or `>`,
and not itself starting with `.` or `~`. -/
structure PlainName (n : String) : Prop where
  ne_empty : n ≠ ""
  no_blank : ∀ c ∈ n.toList, isBlank c = false
  no_brace : '{' ∉ n.toList
  no_open_angle : '<' ∉ n.toList
  no_close_angle : '>' ∉ n.toList
  not_led : operatorLed n = false

theorem not_mem_of_splitAtLast_none {sep : Char} {s : List Char}
    (none_ : splitAtLast sep s = none) : sep ∉ s := by
  induction s with
  | nil => simp
  | cons c cs ih =>
    simp only [splitAtLast] at none_
    cases found : splitAtLast sep cs with
    | some split => simp [found] at none_
    | none =>
      simp only [found, ite_eq_right_iff, reduceCtorEq, imp_false, beq_iff_eq] at none_
      simpa [Ne.symm none_] using ih found

theorem not_mem_after_of_splitAtLast {sep : Char} {s before after : List Char}
    (split : splitAtLast sep s = some (before, after)) : sep ∉ after := by
  induction s generalizing before with
  | nil => simp [splitAtLast] at split
  | cons c cs ih =>
    simp only [splitAtLast] at split
    cases found : splitAtLast sep cs with
    | some inner =>
      obtain ⟨a, b⟩ := inner
      simp only [found, Option.some.injEq, Prod.mk.injEq] at split
      obtain ⟨-, rfl⟩ := split
      exact ih found
    | none =>
      simp only [found] at split
      split at split
      · cases split
        exact not_mem_of_splitAtLast_none found
      · cases split

theorem lastPart_after_last_dot (s : List Char) :
    ('.' ∉ s ∧ lastPart s = s) ∨
      ∃ front, s = front ++ '.' :: lastPart s ∧ '.' ∉ lastPart s := by
  cases found : splitAtLast '.' s with
  | some split =>
    obtain ⟨front, after⟩ := split
    have last : lastPart s = after := by simp [lastPart, found]
    rw [last]
    exact .inr ⟨front, splitAtLast_eq found, not_mem_after_of_splitAtLast found⟩
  | none =>
    have whole : lastPart s = s := by simp [lastPart, found]
    exact .inl ⟨not_mem_of_splitAtLast_none found, whole⟩

theorem collapseBlanksAfter_of_no_blank (inRun : Bool) {s : List Char}
    (clear : ∀ c ∈ s, isBlank c = false) : collapseBlanksAfter inRun s = s := by
  induction s generalizing inRun with
  | nil => rfl
  | cons c cs ih =>
    simp only [List.mem_cons, forall_eq_or_imp] at clear
    simp [collapseBlanksAfter, clear.1, ih false clear.2]

theorem nestedSplit?_of_brace_free {s : List Char} (free : '{' ∉ s) : nestedSplit? s = none := by
  have gone : s.dropWhile (· != '{') = [] := by
    simpa using @List.dropWhile_append_of_pos _ (· != '{') s []
      (by rintro c mem; simpa using fun same : c = '{' => free (same ▸ mem))
  simp [nestedSplit?, gone]

theorem splitRefs_of_nestedSplit?_none {s : List Char} (unsplit : nestedSplit? s = none) :
    splitRefs s = [RefPart.ofChars s] := by
  rw [splitRefs]
  split <;> simp_all

theorem aliasSplitAfter_of_angle_free (seen : List Char) {s : List Char} (free : '<' ∉ s) :
    aliasSplitAfter seen s = none := by
  induction s generalizing seen with
  | nil => rfl
  | cons c cs ih =>
    simp only [List.mem_cons, not_or] at free
    have notOpen : (c == '<') = false := by simpa using fun same : c = '<' => free.1 same.symm
    simp [aliasSplitAfter, notOpen, ih _ free.2]

theorem split_of_plain {s : String} (noBrace : '{' ∉ s.toList) (noAngle : '<' ∉ s.toList) :
    split s = [⟨s, none⟩] := by
  rw [split, splitRefs_of_nestedSplit?_none (nestedSplit?_of_brace_free noBrace)]
  simp [RefPart.ofChars, aliasSplitAfter_of_angle_free [] noAngle]

theorem fieldReference_of_plain {s : String} (role domain inner : String) (named : role ≠ "")
    (content : Option String) (noBrace : '{' ∉ s.toList) (noAngle : '<' ∉ s.toList) :
    fieldReference (some role) domain s inner content =
      .element inner [] [.element "inline" [] [pendingRef domain role ⟨s, none⟩]] := by
  have kept : role.isEmpty = false := by simpa using named
  simp [fieldReference, kept, split_of_plain noBrace noAngle, wrapParts, wrapPart]

theorem head_of_not_led {n : String} (notLed : operatorLed n = false) :
    n.toList.head? ≠ some '.' ∧ n.toList.head? ≠ some '~' := by
  unfold operatorLed at notLed
  split at notLed
  · cases notLed
  · cases notLed
  · next notDot notTilde =>
    constructor <;> intro led <;> obtain ⟨rest, same⟩ := List.head?_eq_some_iff.1 led
    · exact notDot rest same
    · exact notTilde rest same

theorem dropWhile_of_not_led {n : String} (notLed : operatorLed n = false) {op : Char}
    (isOp : op = '.' ∨ op = '~') : n.toList.dropWhile (· == op) = n.toList := by
  have head := head_of_not_led notLed
  cases first : n.toList with
  | nil => rfl
  | cons c cs =>
    rw [first] at head
    have other : c ≠ op := by
      rintro rfl
      rcases isOp with rfl | rfl
      · exact head.1 rfl
      · exact head.2 rfl
    simp [other]

theorem collapseBlanks_led {n : String} (plain : PlainName n) {op : Char}
    (isOp : op = '.' ∨ op = '~') : collapseBlanks (op :: n.toList) = op :: n.toList := by
  apply collapseBlanksAfter_of_no_blank
  simp only [List.mem_cons, forall_eq_or_imp]
  exact ⟨by rcases isOp with rfl | rfl <;> decide, plain.no_blank⟩

theorem ofRole_tilde {n : String} (plain : PlainName n) :
    Link.ofRole false ("~" ++ n) ("~" ++ n) = ⟨String.ofList (lastPart n.toList), n⟩ := by
  have led : ("~" ++ n).toList = '~' :: n.toList := by simp
  simp [Link.ofRole, led, collapseBlanks_led plain (.inr rfl),
    dropWhile_of_not_led plain.not_led (.inr rfl)]

theorem ofRole_dot {n : String} (plain : PlainName n) :
    Link.ofRole false ("." ++ n) ("." ++ n) = ⟨n, "." ++ n⟩ := by
  have led : ("." ++ n).toList = '.' :: n.toList := by simp
  simp [Link.ofRole, led, collapseBlanks_led plain (.inl rfl),
    dropWhile_of_not_led plain.not_led (.inl rfl)]
  -- the name is not led by `~`, so the title is shown whole
  split
  · next rest tilde => exact absurd (by simp [tilde]) (head_of_not_led plain.not_led).2
  · simp

theorem fieldReference_led {n : String} (plain : PlainName n) {op : Char}
    (isOp : op = '.' ∨ op = '~') (role domain inner : String) (named : role ≠ "")
    (content : Option String) :
    fieldReference (some role) domain (String.ofList (op :: n.toList)) inner content =
      .element inner [] [.element "inline" []
        [pendingRef domain role ⟨String.ofList (op :: n.toList), none⟩]] := by
  have notBrace : op ≠ '{' := by rcases isOp with rfl | rfl <;> decide
  have notAngle : op ≠ '<' := by rcases isOp with rfl | rfl <;> decide
  apply fieldReference_of_plain role domain inner named content
  · simpa [Ne.symm notBrace] using plain.no_brace
  · simpa [Ne.symm notAngle] using plain.no_open_angle

theorem fieldReference_tilde {n : String} (plain : PlainName n) (role domain inner : String)
    (named : role ≠ "") (content : Option String) :
    fieldReference (some role) domain ("~" ++ n) inner content =
      .element inner [] [.element "inline" []
        [pendingXref domain role (String.ofList (lastPart n.toList)) n]] := by
  have led : "~" ++ n = String.ofList ('~' :: n.toList) := by simp
  rw [led, fieldReference_led plain (.inr rfl) role domain inner named content, pendingRef_eq]
  simp [RefPart.shownAndTarget, RefPart.shown, operatorLed]

theorem fieldReference_dot {n : String} (plain : PlainName n) (role domain inner : String)
    (named : role ≠ "") (content : Option String) :
    fieldReference (some role) domain ("." ++ n) inner content =
      .element inner [] [.element "inline" []
        [pendingXref domain role (String.ofList (n.toList.drop 1)) n]] := by
  have led : "." ++ n = String.ofList ('.' :: n.toList) := by simp
  rw [led, fieldReference_led plain (.inl rfl) role domain inner named content, pendingRef_eq]
  simp [RefPart.shownAndTarget, RefPart.shown, operatorLed]

/-- The operators on the two paths: a role link `~N` shows the last dotted part of `N` and points
at `N`, a role link `.N` shows `N` and points at `.N`; a field reference `~N` shows `N` and points
at the last dotted part of `N`, and a field reference `.N` shows `N` and points at `N` less its
first character. -/
theorem reference_operators_by_path (n : String) (plain : PlainName n)
    (role domain inner : String) (named : role ≠ "") (content : Option String) :
    Link.ofRole false ("~" ++ n) ("~" ++ n) = ⟨String.ofList (lastPart n.toList), n⟩ ∧
      Link.ofRole false ("." ++ n) ("." ++ n) = ⟨n, "." ++ n⟩ ∧
      fieldReference (some role) domain ("~" ++ n) inner content =
        .element inner [] [.element "inline" []
          [pendingXref domain role (String.ofList (lastPart n.toList)) n]] ∧
      fieldReference (some role) domain ("." ++ n) inner content =
        .element inner [] [.element "inline" []
          [pendingXref domain role (String.ofList (n.toList.drop 1)) n]] :=
  ⟨ofRole_tilde plain, ofRole_dot plain,
    fieldReference_tilde plain role domain inner named content,
    fieldReference_dot plain role domain inner named content⟩

theorem plainName_dotted : PlainName "Sys.Str" :=
  ⟨by decide, by simp [isBlank], by decide, by decide, by decide, by decide⟩

theorem reference_operators_by_path_at_dotted :
    PlainName "Sys.Str" ∧ "obj" ≠ "" ∧
      Link.ofRole false ("~" ++ "Sys.Str") ("~" ++ "Sys.Str") =
          ⟨String.ofList (lastPart "Sys.Str".toList), "Sys.Str"⟩ ∧
      Link.ofRole false ("." ++ "Sys.Str") ("." ++ "Sys.Str") =
          ⟨"Sys.Str", "." ++ "Sys.Str"⟩ ∧
      fieldReference (some "obj") "dn" ("~" ++ "Sys.Str") "emphasis" none =
        .element "emphasis" [] [.element "inline" []
          [pendingXref "dn" "obj" (String.ofList (lastPart "Sys.Str".toList))
            "Sys.Str"]] ∧
      fieldReference (some "obj") "dn" ("." ++ "Sys.Str") "emphasis" none =
        .element "emphasis" [] [.element "inline" []
          [pendingXref "dn" "obj" (String.ofList ("Sys.Str".toList.drop 1))
            "Sys.Str"]] :=
  ⟨plainName_dotted, by decide,
    reference_operators_by_path "Sys.Str" plainName_dotted "obj" "dn" "emphasis" (by decide) none⟩

end NetApiDoc.Reference
