import Mathlib.Data.List.Nodup
import NetApiDoc.Inventory.Basic

set_option autoImplicit false

namespace NetApiDoc

namespace Inventory

theorem ext_entries {inv inv' : Inventory} (same : inv.entries = inv'.entries) : inv = inv' := by
  cases inv
  cases inv'
  cases same
  rfl

theorem clearEntry_entries (doc : Option String) (live : Inventory) (p : String × Entry) :
    (clearEntry doc live p).entries =
      live.entries.filter fun q => !(q.1 == p.1 && doc == p.2.doc) := by
  unfold clearEntry
  by_cases mine : doc == p.2.doc
  · simp [mine, erase, bne]
  · simp [mine]

theorem foldl_clearEntry_entries (doc : Option String) (copy : List (String × Entry))
    (live : Inventory) :
    (copy.foldl (clearEntry doc) live).entries =
      live.entries.filter fun q => !copy.any fun p => q.1 == p.1 && doc == p.2.doc := by
  -- the walk reads the copy while it erases from the live inventory, so the two are kept apart
  induction copy generalizing live with
  | nil => simp
  | cons p rest ih =>
    rw [List.foldl_cons, ih, clearEntry_entries, List.filter_filter]
    apply List.filter_congr
    intro q _
    simp only [List.any_cons, Bool.not_or, Bool.and_comm]

theorem any_sameName_iff_mine {inv : Inventory} (doc : Option String) {q : String × Entry}
    (mem : q ∈ inv.entries) :
    (inv.entries.any fun p => q.1 == p.1 && doc == p.2.doc) = (doc == q.2.doc) := by
  apply Bool.eq_iff_iff.2
  constructor
  · intro shown
    obtain ⟨p, memP, same⟩ := List.any_eq_true.1 shown
    simp only [Bool.and_eq_true, beq_iff_eq] at same
    have one : p = q := List.inj_on_of_nodup_map inv.nodup memP mem same.1.symm
    subst one
    simpa using same.2
  · intro mine
    exact List.any_eq_true.2 ⟨q, mem, by simpa using mine⟩

theorem clearDoc_entries (inv : Inventory) (doc : Option String) :
    (inv.clearDoc doc).entries = inv.entries.filter (·.2.doc != doc) := by
  rw [clearDoc, foldl_clearEntry_entries]
  apply List.filter_congr
  intro q mem
  rw [any_sameName_iff_mine doc mem, bne_comm]
  rfl

theorem clearDoc_clearDoc_self (inv : Inventory) (doc : Option String) :
    (inv.clearDoc doc).clearDoc doc = inv.clearDoc doc := by
  apply ext_entries
  rw [clearDoc_entries, clearDoc_entries, List.filter_filter]
  simp only [Bool.and_self]

theorem clearDoc_comm (inv : Inventory) (doc doc' : Option String) :
    (inv.clearDoc doc).clearDoc doc' = (inv.clearDoc doc').clearDoc doc := by
  apply ext_entries
  simp only [clearDoc_entries, List.filter_filter, Bool.and_comm]

/-- Clearing a document removes exactly its entries and keeps the others, unchanged and in their
order; clearing it again changes nothing, and clearing two documents gives one inventory, order
included, whichever is cleared first. -/
theorem clearDoc_removes_one_document (inv : Inventory) (doc : Option String) :
    (inv.clearDoc doc).entries = inv.entries.filter (·.2.doc != doc) ∧
      (inv.clearDoc doc).clearDoc doc = inv.clearDoc doc ∧
      ∀ doc', (inv.clearDoc doc).clearDoc doc' = (inv.clearDoc doc').clearDoc doc :=
  ⟨clearDoc_entries inv doc, clearDoc_clearDoc_self inv doc, clearDoc_comm inv doc⟩

example :
    ((ofList [("A", ⟨some "a", some "class"⟩), ("B", ⟨some "b", some "class"⟩),
      ("A.M", ⟨some "a", some "method"⟩), ("B.M", ⟨some "b", some "method"⟩)]).clearDoc
        (some "a")).names = ["B", "B.M"] := by
  rfl

end Inventory

end NetApiDoc
