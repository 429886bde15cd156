import FormulaSheet.Desugaring.Conditional
import FormulaSheet.Desugaring.Literals
import FormulaSheet.Desugaring.Negation

/-!
From formulas to scripts. A cell that begins with `%` holds a formula; `toScript` desugars its
expression into the script language, in which it is then run.
-/

namespace FormulaSheet.Desugaring

/-- Desugars an expression into a script. -/
def toScript (expression : String) : String :=
  let (code, literals) := mask expression.toList
  let code := desugarWords code
  let code := desugarNegations (code.length + 1) code
  String.ofList (unmask literals (desugarConditionals code))

end FormulaSheet.Desugaring
