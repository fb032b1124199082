/-!
The errors of the library, one constructor per cause, the class each one is reported as, and
the text each one reports.
-/

set_option autoImplicit false

namespace NetApiDoc

inductive Error
  | noGrammar
  | unreadableSignature (text : String)
  | missingMember
  | unknownRole
  | kindWithoutRole
  | missingDocument
  | emptyLastPart
  | unknownKind (kind : Option String)
  | emptyLookup
  | missingDocumentName
  | noItems
  | notACount (typeName : String)
  | notDivisible (typeName : String)
  | notARepeat (typeName : String)
  | unexpectedParameter (workload parameter : String)
  | fieldLink
  deriving DecidableEq, Repr

def Error.className : Error → String
  | .noGrammar => "AssertionError"
  | .unreadableSignature _ | .emptyLookup => "ValueError"
  | .missingMember | .unknownRole | .kindWithoutRole | .missingDocument => "TypeError"
  | .emptyLastPart | .noItems => "IndexError"
  | .notACount _ | .notDivisible _ | .notARepeat _ | .unexpectedParameter _ _ => "TypeError"
  | .fieldLink => "TypeError"
  | .unknownKind _ => "KeyError"
  | .missingDocumentName => "AttributeError"

def Error.message : Error → String
  | .noGrammar => ""
  | .unreadableSignature text => "Could not parse signature: " ++ text
  | .missingMember => "sequence item 1: expected str instance, NoneType found"
  | .unknownRole => "argument of type 'NoneType' is not iterable"
  | .kindWithoutRole => "can only concatenate str (not \"NoneType\") to str"
  | .missingDocument => "unsupported operand type(s) for +: 'NoneType' and 'str'"
  | .emptyLastPart => "string index out of range"
  | .unknownKind kind => kind.getD "None"
  | .emptyLookup => "not enough values to unpack (expected 2, got 0)"
  | .missingDocumentName => "'NoneType' object has no attribute 'lower'"
  | .noItems => "list index out of range"
  | .notACount t => "'" ++ t ++ "' object cannot be interpreted as an integer"
  | .notDivisible t => "unsupported operand type(s) for //: '" ++ t ++ "' and 'int'"
  | .notARepeat t => "can't multiply sequence by non-int of type '" ++ t ++ "'"
  | .unexpectedParameter w p => w ++ "() got an unexpected keyword argument '" ++ p ++ "'"
  | .fieldLink =>
    "DotNetXRefMixin.make_xref() takes from 4 to 6 positional arguments but 7 were given"

/-! On closed terms `decide` compares a result through its value as an option. -/

theorem eq_ok_of_toOption {ε α : Type} {x : Except ε α} {a : α} (h : x.toOption = some a) :
    x = .ok a := by
  cases x <;> simp_all [Except.toOption]

theorem exists_ok_of_toOption {ε γ : Type} {x : Except ε γ} (h : x.toOption.isSome = true) :
    ∃ a, x = .ok a := by
  cases x with
  | error e => cases h
  | ok a => exact ⟨a, rfl⟩

end NetApiDoc
