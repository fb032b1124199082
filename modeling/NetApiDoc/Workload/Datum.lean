import NetApiDoc.Error
import NetApiDoc.Doc.Node
import NetApiDoc.Inventory.Lookup

set_option autoImplicit false

namespace NetApiDoc.Workload

inductive Datum
  | none
  | count (n : Int)
  | text (s : String)
  | node (n : Node)
  | list (items : List Datum)
  deriving Repr

inductive Size
  | whole (n : Int)
  | other (typeName : String) (numeric : Bool)
  deriving DecidableEq, Repr

def Size.count : Size → Except Error Int
  | .whole n => .ok n
  | .other t _ => .error (.notACount t)

def Size.repeatTo : Size → Except Error Int
  | .whole n => .ok n
  | .other t numeric => .error (if numeric then .notARepeat t else .notDivisible t)

def cycle {α : Type} (sample : List α) (n : Nat) : List α :=
  (List.replicate (n / sample.length + 1) sample).flatten.take n

theorem length_cycle {α : Type} (sample : List α) (n : Nat) (h : sample ≠ []) :
    (cycle sample n).length = n := by
  have hpos : 0 < sample.length := List.length_pos_iff.2 h
  simp only [cycle, List.length_take, List.length_flatten, List.map_replicate,
    List.sum_replicate_nat]
  apply Nat.min_eq_left
  have := Nat.lt_div_mul_add (a := n) hpos
  rw [Nat.add_mul, Nat.one_mul]
  omega

def Datum.ofOption : Option String → Datum
  | some s => .text s
  | Option.none => .none

def Datum.ofLookup : Lookup → Datum
  | .emptyName => .list []
  | .notFound => .none
  | .found name e => .list [.text name, .list [.ofOption e.doc, .ofOption e.kind]]

end NetApiDoc.Workload
