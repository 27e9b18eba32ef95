import LinePatch.Response

/-!
# The built-in self check

A fixed set of small patches is applied and generated, and each outcome is compared
with what it should be: additions, replacements and deletions by marked lines, context
matched loosely on whitespace, a snippet without markers, generated scripts and their
round trip, the indentation policy, a refused unbalanced result, a fenced block in a
response, and a round trip through the character engine. The report has one line per
check, `OK: ...` or `FAIL: ...`.
-/

namespace LinePatch

variable [Text.Surrogates]

namespace SelfCheck

def squash (text : String) : String :=
  "\n".intercalate ((Text.cutAt '\n' (Text.trimBlanks text).toList).map fun l =>
    Text.trimBlanks (String.ofList l))

def verdict (holds : Bool) (pass fail : String) : Bool × String :=
  if holds then (true, "OK: " ++ pass) else (false, "FAIL: " ++ fail)

/-- The code the line checks start from. -/
def source : String := "line1\nline2\nline3"

def lineChecks : List (Bool × String) :=
  let p := Policy.whitespace
  let out1 := apply p source "line1\nline2\n+newLine\nline3"
  let out2 := apply p source "line1\n-line2\n+modifiedLine2\nline3"
  let out3 := apply p source "line1\n - line2\nline3"
  let code := "function f() \x7b\n    return 1;\n\x7d"
  let out4 := apply p code "function f()\x7b\n+    log();\nreturn 1;\n\x7d"
  let out5 := apply p "a\nb\nc\nd\ne" "b\nX\nd"
  let diff := generate p source "line1\nmodifiedLine2\nline3"
  let old := "a\nb\nc\nd\ne\nf"
  let new := "a\nc\nd\nb\ne\nf\ng"
  let roundTrip := apply p old (generate p old new)
  let out7 := apply .indentation "def f():\n    x = 1\n    return x"
    "  def f():\n      x = 1\n+     y = 2\n      return x"
  [verdict (squash out1 == "line1\nline2\nnewLine\nline3") "Marked addition."
      ("Marked addition produced: " ++ Text.quoted out1),
    verdict (squash out2 == "line1\nmodifiedLine2\nline3") "Replacement."
      ("Replacement produced: " ++ Text.quoted out2),
    verdict (squash out3 == "line1\nline3") "Indented deletion."
      ("Indented deletion produced: " ++ Text.quoted out3),
    verdict (out4 == "function f() \x7b\n    log();\n    return 1;\n\x7d") "Whitespace-tolerant context."
      ("Whitespace-tolerant context produced: " ++ Text.quoted out4),
    verdict (out5 == "a\nb\nX\nd\ne") "Snippet fallback."
      ("Snippet fallback produced: " ++ Text.quoted out5),
    verdict (diff == "  line1\n- line2\n+ modifiedLine2\n  line3") "Diff generation."
      ("Generated diff incorrect: " ++ Text.quoted diff),
    verdict (generate p source source == "") "Empty diff for identical texts."
      "Identical texts produced a non-empty diff.",
    verdict (squash roundTrip == new) "Round trip with moved line."
      ("Round trip produced: " ++ Text.quoted roundTrip),
    verdict (out7 == "def f():\n    x = 1\n    y = 2\n    return x") "Indentation policy."
      ("Indentation policy produced: " ++ Text.quoted out7)]

def balanceCheck : Bool × String :=
  match applyGuarded .whitespace "f(a)\ng(b)" "f(a)\n-g(b)\n+g(b" with
  | .ok _ => (false, "FAIL: Unbalanced result was not rejected.")
  | .error (.unbalanced broken) =>
    verdict (broken.contains .parenthesis) "Balance regression rejected."
      ("Rejection named the wrong balance: " ++ ", ".intercalate (broken.map Balance.name))
  | .error _ => (false, "FAIL: Unbalanced result was not rejected.")

def faultingChecks : Except Fault (List (Bool × String)) := do
  let response := "Here you go:\n```diff\n line1\n-line2\n+line two\n line3\n```\nDone."
  let out ← ({} : Applier).apply source response
  let engine := Engine.chars 0.5 1000
  let target := "alpha\nbeta\ngamma\n"
  let back ← engine.apply target (← engine.generate target "alpha\nBETA\ngamma\n")
  pure [verdict (squash out == "line1\nline two\nline3") "Fenced block apply."
      ("Fenced block apply produced: " ++ Text.quoted out),
    verdict (back == "alpha\nBETA\ngamma\n") "diff-match-patch backend."
      "diff-match-patch backend round trip failed."]

end SelfCheck

def selfCheck : Except Fault (Bool × String) := do
  let checks := SelfCheck.lineChecks ++ [SelfCheck.balanceCheck] ++ (← SelfCheck.faultingChecks)
  pure (checks.all (·.1), "\n".intercalate (checks.map (·.2)))

end LinePatch
