import LinePatch.Apply
import LinePatch.Fault

/-!
# Guarded application

A guarded application applies a patch and refuses the result when it breaks a balance
of brackets or quotes that the source kept. The result loses its carriage returns
before it is checked.
-/

namespace LinePatch

/-- A text without its carriage returns. -/
def dropCarriageReturns (s : String) : String :=
  String.ofList (s.toList.filter (· ≠ '\r'))

/-- Checks a result against its source: the result without carriage returns, or the
balances it broke. -/
def Balance.guard (before after : String) : Except Fault String :=
  let after := dropCarriageReturns after
  match Balance.regressions before after with
  | [] => .ok after
  | broken => .error (.unbalanced broken)

/-- Applies a patch and checks the result against the source. -/
def applyGuarded (p : Policy) (source patch : String) : Except Fault String :=
  Balance.guard source (apply p source patch)

end LinePatch
