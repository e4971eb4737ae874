/-
FilterChips.View.StatusLine — the verdict on the expression and the latest message, in one line.
-/
import FilterChips.Expression.Verdict
import FilterChips.Screen.Line

namespace FilterChips

/-- The verdict: green when the expression is valid, red with the reason when it is not. -/
def verdictSpan (verdict : Verdict) : Span :=
  if verdict.isValid then ⟨"✓ Valid expression", (Style.colored .green).bold⟩
  else ⟨"✗ " ++ verdict.message, (Style.colored .red).bold⟩

/-- The verdict and, unless it is empty, the message. -/
def statusLine (verdict : Verdict) (message : String) : Line :=
  if message = "" then ⟨[verdictSpan verdict]⟩
  else ⟨[verdictSpan verdict, ⟨" | ", .plain⟩, ⟨message, .colored .darkGray⟩]⟩

end FilterChips
