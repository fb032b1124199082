import NetApiDoc.Error

set_option autoImplicit false

namespace NetApiDoc

structure Entry where
  doc : Option String
  kind : Option String
  deriving DecidableEq, Repr

structure Inventory where
  entries : List (String × Entry)
  nodup : (entries.map Prod.fst).Nodup

namespace Inventory

def empty : Inventory := ⟨[], List.nodup_nil⟩

def names (inv : Inventory) : List String := inv.entries.map Prod.fst

def contains (inv : Inventory) (name : String) : Bool := inv.entries.any (·.1 == name)

def get? (inv : Inventory) (name : String) : Option Entry := inv.entries.lookup name

/-- Records an object: a new name goes last, a known name keeps its place. -/
def insert (inv : Inventory) (name : String) (e : Entry) : Inventory :=
  if h : inv.contains name then
    ⟨inv.entries.map fun p => if p.1 == name then (name, e) else p, by
      have hk : (inv.entries.map fun p => if p.1 == name then (name, e) else p).map Prod.fst =
          inv.entries.map Prod.fst := by
        rw [List.map_map]
        apply List.map_congr_left
        intro p _
        simp only [Function.comp]
        split <;> simp_all
      rw [hk]
      exact inv.nodup⟩
  else
    ⟨inv.entries ++ [(name, e)], by
      rw [List.map_append, List.nodup_append]
      refine ⟨inv.nodup, by simp, ?_⟩
      intro a ha b hb hab
      simp only [List.map_cons, List.map_nil, List.mem_singleton] at hb
      subst hb hab
      apply h
      obtain ⟨p, hp, hpa⟩ := List.mem_map.1 ha
      exact List.any_eq_true.2 ⟨p, hp, by simp [hpa]⟩⟩

def erase (inv : Inventory) (name : String) : Inventory :=
  ⟨inv.entries.filter (·.1 != name), inv.nodup.sublist (List.filter_sublist.map _)⟩

/-- One step of clearing a document: an entry read from the copy taken before the first removal
is removed from the live inventory, by its name, when it belongs to the document. -/
def clearEntry (doc : Option String) (live : Inventory) (p : String × Entry) : Inventory :=
  if doc == p.2.doc then live.erase p.1 else live

/-- Removes the objects of one document, walking a copy of the entries taken before the first
removal. -/
def clearDoc (inv : Inventory) (doc : Option String) : Inventory :=
  inv.entries.foldl (clearEntry doc) inv

def ofList (objects : List (String × Entry)) : Inventory :=
  objects.foldl (fun inv p => inv.insert p.1 p.2) empty

def endingIn (inv : Inventory) (name : String) : List String :=
  inv.names.filter (·.endsWith ("." ++ name))

end Inventory

end NetApiDoc
