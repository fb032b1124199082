/-!
The nesting of object descriptions. Describing a container enters its full name; members
described inside it take the innermost name entered as their prefix. Leaving a container drops
the innermost name, whether or not the container entered one, so a container whose signature
did not read leaves the name of the container around it.
-/

set_option autoImplicit false

namespace NetApiDoc.Build

structure Nesting where
  names : List String
  deriving DecidableEq, Repr

namespace Nesting

def top : Nesting := ⟨[]⟩

def current (n : Nesting) : Option String := n.names.getLast?

def enter (n : Nesting) (name : String) : Nesting := ⟨n.names ++ [name]⟩

def leave (n : Nesting) : Nesting := ⟨n.names.dropLast⟩

@[simp] theorem current_enter (n : Nesting) (name : String) :
    (n.enter name).current = some name := by
  simp [enter, current]

@[simp] theorem leave_enter (n : Nesting) (name : String) : (n.enter name).leave = n := by
  simp [enter, leave]

@[simp] theorem current_top : top.current = none := rfl

@[simp] theorem leave_top : top.leave = top := rfl

end Nesting

end NetApiDoc.Build
