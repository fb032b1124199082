/-!
Double-precision numbers as they come from dividing two whole numbers, and their decimal
forms. A positive double is a significand below `2 ^ 53` times a power of two; a quotient
rounds to the nearest such number, a tie to the even significand. The decimal forms are exact
computations on the rational value a double stands for: fixed-point text rounded to some
places, a tie to the even last digit, and the shortest digits that read back as the same
double.

Only the normal range is modelled: quotients of counts lie far from both of its ends.
-/

set_option autoImplicit false

namespace NetApiDoc.Text

structure Binary64 where
  significand : Nat
  exponent : Int
  deriving DecidableEq, Repr

def roundHalfEven (n d : Nat) : Nat :=
  let q := n / d
  let r := n % d
  if 2 * r > d then q + 1 else if 2 * r < d then q else q + q % 2

def scaleByTwo (n d : Nat) (e : Int) : Nat × Nat :=
  if 0 ≤ e then (n, d * Nat.pow 2 e.toNat) else (n * Nat.pow 2 (-e).toNat, d)

def scaleByTen (n d : Nat) (e : Int) : Nat × Nat :=
  if 0 ≤ e then (n, d * Nat.pow 10 e.toNat) else (n * Nat.pow 10 (-e).toNat, d)

namespace Binary64

def ofRatio (n d : Nat) : Binary64 :=
  if n = 0 ∨ d = 0 then ⟨0, 0⟩
  else
    let guess : Int := (n.log2 : Int) - d.log2 - 52
    let low := (scaleByTwo n d guess).1 / (scaleByTwo n d guess).2 < Nat.pow 2 52
    let e := if low then guess - 1 else guess
    let m := roundHalfEven (scaleByTwo n d e).1 (scaleByTwo n d e).2
    if m = Nat.pow 2 53 then ⟨Nat.pow 2 52, e + 1⟩ else ⟨m, e⟩

def ratio (x : Binary64) : Nat × Nat :=
  if 0 ≤ x.exponent then (x.significand * Nat.pow 2 x.exponent.toNat, 1)
  else (x.significand, Nat.pow 2 (-x.exponent).toNat)

def fixed (x : Binary64) (places : Nat) : String :=
  let q := roundHalfEven (x.ratio.1 * Nat.pow 10 places) x.ratio.2
  let whole := toString (q / Nat.pow 10 places)
  if places = 0 then whole
  else
    let frac := toString (q % Nat.pow 10 places)
    whole ++ "." ++ String.ofList (List.replicate (places - frac.length) '0') ++ frac

def leadingPower (n d : Nat) : Int :=
  let guess : Int := ((toString n).length : Int) - (toString d).length
  if (scaleByTen n d guess).1 < (scaleByTen n d guess).2 then guess - 1 else guess

def roundedDigits (n d : Nat) (p : Int) (k : Nat) : Nat × Int :=
  let s := p - k + 1
  let digits := roundHalfEven (scaleByTen n d s).1 (scaleByTen n d s).2
  if digits = Nat.pow 10 k then (Nat.pow 10 (k - 1), s + 1) else (digits, s)

def readDecimal (digits : Nat) (s : Int) : Binary64 :=
  if 0 ≤ s then ofRatio (digits * Nat.pow 10 s.toNat) 1
  else ofRatio digits (Nat.pow 10 (-s).toNat)

def shortest (x : Binary64) : Nat × Int :=
  let (n, d) := x.ratio
  if n = 0 then (0, 0)
  else
    let p := leadingPower n d
    let tries := (List.range 17).map fun i => roundedDigits n d p (i + 1)
    match tries.find? fun (digits, s) => readDecimal digits s == x with
    | some found => found
    | none => roundedDigits n d p 17

def between (x : Binary64) (a b : Nat) : Bool :=
  a * x.ratio.2 < x.ratio.1 && x.ratio.1 < b * x.ratio.2

end Binary64

theorem roundHalfEven_exact (q d : Nat) (h : 0 < d) : roundHalfEven (q * d) d = q := by
  unfold roundHalfEven
  simp [Nat.mul_div_cancel _ h, Nat.mul_mod_left, h]

end NetApiDoc.Text
