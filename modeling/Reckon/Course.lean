import Reckon.Calculation

/-!
Contract: the courses that a calculation can take, told from the results of its stages.

Owns:
- for each stage at which a calculation can end, its result and the records that it
  leaves on the way, those of skipped text apart;
- the wording of the last record.

Does not own: where text is skipped.
-/

set_option autoImplicit false

namespace Reckon

/-- A stage that succeeds leaves its record, and the calculation goes on. The first
stage that fails decides the result, and so does the value if none fails; either way
the result is recorded last. -/
inductive Course (settings : Settings) (text : String) :
    List Record → Except CalculationError Float → Prop where
  | invalidLexeme {error : ParseError} :
      tokenize text = .error error →
        Course settings text [.failed text (.parse error)] (.error (.parse error))
  | noExpression {tokens : List Token} {error : ParseError} :
      tokenize text = .ok tokens →
        Tree.ofTokens settings tokens = .error error →
          Course settings text
            [.tokenized text tokens.length, .failed text (.parse error)]
            (.error (.parse error))
  | noValue {tokens : List Token} {tree : Tree} {error : EvalError} :
      tokenize text = .ok tokens →
        Tree.ofTokens settings tokens = .ok tree →
          tree.value = .error error →
            Course settings text
              [.tokenized text tokens.length, .parsed tokens.length tree.nodeCount,
                .failed text (.eval error)]
              (.error (.eval error))
  | valued {tokens : List Token} {tree : Tree} {value : Float} :
      tokenize text = .ok tokens →
        Tree.ofTokens settings tokens = .ok tree →
          tree.value = .ok value →
            Course settings text
              [.tokenized text tokens.length, .parsed tokens.length tree.nodeCount,
                .evaluated tree.nodeCount value, .calculated text value]
              (.ok value)

/-- The result of a calculation in words. -/
def verdict (text : String) : Except CalculationError Float → String
  | .ok value => Text.quote text ++ " = " ++ numeral value
  | .error error => Text.quote text ++ " failed: " ++ error.message

end Reckon
