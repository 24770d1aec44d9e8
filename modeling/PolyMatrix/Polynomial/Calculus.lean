import PolyMatrix.Polynomial.Basic

/-!
# Derivatives and antiderivatives

Both act on one monomial after the other and in one symbol.
-/

namespace PolyMatrix
namespace Polynomial

variable {K : Type}

/-- The partial derivative in a symbol: a monomial with `n` factors of it loses
one of them and is multiplied by `n`; the others vanish. -/
def derive [Add K] [Mul K] [Coefficient K] (p : Polynomial K) (symbol : String) :
    Polynomial K :=
  p.terms.foldl
    (fun sum term =>
      match term.1.erase? symbol with
      | some lowered =>
          sum.accumulate lowered
            (term.2 * Coefficient.ofNat (term.1.count symbol))
      | none => sum) zero

/-- The antiderivative in a symbol without a constant: a monomial gains a factor
of the symbol and is divided by how many it then has. -/
def integrate [Add K] [Div K] [Coefficient K] (p : Polynomial K) (symbol : String) :
    Polynomial K :=
  p.terms.foldl
    (fun sum term =>
      let raised := term.1.insert symbol
      sum.accumulate raised (term.2 / Coefficient.ofNat (raised.count symbol))) zero

@[simp] theorem derive_zero [Add K] [Mul K] [Coefficient K] (symbol : String) :
    (zero : Polynomial K).derive symbol = zero :=
  rfl

@[simp] theorem integrate_zero [Add K] [Div K] [Coefficient K] (symbol : String) :
    (zero : Polynomial K).integrate symbol = zero :=
  rfl

end Polynomial
end PolyMatrix
