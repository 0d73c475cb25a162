import ViewCompiler.Proofs.Text.Quoted
import ViewCompiler.Proofs.Value.Call

/-!
# Quoted texts as arguments

Within the literal that `Text.quote` writes, every quote mark has a backslash in front of it, so no scanner takes the
literal for closed too early. At its end the two conventions part: a final backslash is written twice, and the scanners,
which look back by one character only, take the second one for an escape of the closing mark.
-/

namespace ViewCompiler.Expression

open Scan

variable {s : Scan} {t : Text} {depth : Nat}

/-! ### Within a quote -/

/-- Every character of a text is read within a quote. -/
def Within : Scan → Text → Prop := Reads fun s _ => s.quote ≠ none

theorem Within.solid {sep : Text} (h : Within s t) : Solid sep s t := by
  intro front c back ht _
  rw [Bool.eq_false_iff, ne_eq, isFree_iff]
  exact fun hfree => h front c back ht hfree.1.1

/-- Parentheses within a quote are not counted. -/
theorem Within.closesAtEnd_append (h : Within s t) (u : Text) :
    closesAtEnd depth s.quote s.last (t ++ u) = closesAtEnd depth (s.run t).quote (s.run t).last u := by
  induction t generalizing s with
  | nil => rfl
  | cons c t ih =>
      rw [Within, reads_cons] at h
      rw [List.cons_append, closesAtEnd_cons, if_neg fun hclose => h.1 hclose.1, nested, if_neg h.1, ih h.2, run_cons]

theorem step_of_ne {mark c : Char} (hs : s.quote = some mark) (hc : c ≠ mark) : s.step c = ⟨s.depth, some mark, c⟩ := by
  simp [step_within hs, hc]

theorem step_of_escape {mark : Char} (hs : s.quote = some mark) (hlast : s.last = '\\') (c : Char) :
    s.step c = ⟨s.depth, some mark, c⟩ := by
  simp [step_within hs, hlast]

/-! ### What a quoted text holds -/

/-- A character of a quoted text leaves the quote open, and a backslash behind it exactly if it is one. -/
theorem run_quoteChar (hs : s.quote = some '\'') (c : Char) : Within s (Text.quoteChar c) ∧
    (s.run (Text.quoteChar c)).quote = some '\'' ∧ ((s.run (Text.quoteChar c)).last = '\\' ↔ c = '\\') := by
  have hopen : s.quote ≠ none := by simp [hs]
  rcases Text.quoteChar_cases c with ⟨d, heq, hescape⟩ | ⟨heq, hbare⟩
  · have hfirst : s.step '\\' = ⟨s.depth, some '\'', '\\'⟩ := step_of_ne hs (by decide)
    have hsecond : (s.step '\\').step d = ⟨s.depth, some '\'', d⟩ := by
      rw [hfirst]
      exact step_of_escape rfl rfl d
    rw [heq, run_cons, run_cons, hsecond]
    refine ⟨reads_cons.2 ⟨hopen, reads_cons.2 ⟨?_, reads_nil _ _⟩⟩, rfl, Text.lookup_escapes_backslash hescape⟩
    simp [hfirst]
  · have hmark : c ≠ '\'' := by
      rintro rfl
      cases hbare
    rw [heq, run_cons, step_of_ne hs hmark]
    exact ⟨reads_cons.2 ⟨hopen, reads_nil _ _⟩, rfl, Iff.rfl⟩

theorem run_escaped (hs : s.quote = some '\'') (t : Text) : Within s (t.flatMap Text.quoteChar) ∧
    (s.run (t.flatMap Text.quoteChar)).quote = some '\'' ∧
    ((s.run (t.flatMap Text.quoteChar)).last = '\\' ↔ t.getLast?.getD s.last = '\\') := by
  induction t generalizing s with
  | nil => exact ⟨reads_nil _ s, hs, Iff.rfl⟩
  | cons c t ih =>
      obtain ⟨hwithin, hquote, hlast⟩ := run_quoteChar hs c
      obtain ⟨hlater, hquote', hlast'⟩ := ih hquote
      rw [List.flatMap_cons, run_append]
      refine ⟨reads_append.2 ⟨hwithin, hlater⟩, hquote', hlast'.trans ?_⟩
      rw [List.getLast?_cons, Option.getD_some]
      -- The last character of the rest decides, if there is one, and otherwise what `c` leaves behind.
      cases t.getLast? with
      | none => exact hlast
      | some d => exact Iff.rfl

theorem within_quote (t : Text) : Within (start.step '\'') (t.flatMap Text.quoteChar ++ ['\'']) := by
  obtain ⟨hwithin, hquote, -⟩ := run_escaped (s := start.step '\'') rfl t
  refine reads_append.2 ⟨hwithin, reads_cons.2 ⟨?_, reads_nil _ _⟩⟩
  rw [hquote]
  exact Option.some_ne_none _

/-- A literal is closed unless the text that it stands for ends in a backslash. -/
theorem closed_quote_iff (t : Text) : Closed t.quote ↔ t.getLast? ≠ some '\\' := by
  obtain ⟨-, hquote, hlast⟩ := run_escaped (s := start.step '\'') rfl t
  have hbackslash : t.getLast?.getD '\'' = '\\' ↔ t.getLast? = some '\\' := by
    cases t.getLast? <;> simp
  rw [Closed, Text.quote, run_cons, run_append, run_cons, run_nil, step_within hquote, ne_eq, ← hlast.trans hbackslash]
  simp

theorem solid_quote (t : Text) : Solid [','] start t.quote :=
  reads_cons.2 ⟨fun heq => absurd heq (by decide), (within_quote t).solid⟩

theorem split_quote (t : Text) : split [','] t.quote = [t.quote] := split_of_solid (solid_quote t)

theorem closesAtEnd_quote (depth : Nat) (t u : Text) : closesAtEnd depth none ' ' (t.quote ++ u) =
    closesAtEnd depth (start.run t.quote).quote (start.run t.quote).last u :=
  (within_quote t).closesAtEnd_append u

theorem closesAtEnd_paren (quote : Option Char) (last : Char) : closesAtEnd 1 quote last [')'] = quote.isNone := by
  cases quote <;> rfl

theorem strip_quote (t : Text) : t.quote.strip = t.quote := by
  apply Text.strip_eq_self
  · exact Text.stops_cons.2 (by decide)
  · intro c hc
    rw [Text.quote, ← List.cons_append, List.getLast?_concat] at hc
    cases hc
    decide

theorem argument?_quote (t : Text) : argument? t.quote = some (.constant t.quote) := by
  have hliteral : isLiteral t.quote = true := by simp [isLiteral, Text.quote, isQuoteMark]
  have hne : t.quote ≠ Argument.placeholderText := by
    intro heq
    exact absurd (List.cons.inj heq).1 (by decide)
  simp only [argument?, strip_quote, if_neg hne, Argument.ofText, hliteral]
  rfl

theorem arguments?_quote (t : Text) : arguments? t.quote = some [.constant t.quote] := by
  rw [arguments?_eq_some_iff, split_quote]
  refine Or.inr ⟨?_, .cons (argument?_quote t) .nil⟩
  have hmark : Text.isBlank '\'' = false := by decide
  simp [Text.isAllBlank, Text.quote, hmark]

/-- A call with a quoted text for its only argument is read as such, except where the text ends in a backslash: then the
literal does not close, and there is no call. The commas and brackets in the text never matter. -/
theorem quoted_argument_read (t : Text) :
    call? ("h(" ++ t.quote ++ ")") =
        (if t.getLast? = some '\\' then none else some (.call "h".toList [.constant t.quote])) ∧
      split [','] t.quote = [t.quote] ∧ ((start.run t.quote).quote = none ↔ t.getLast? ≠ some '\\') := by
  refine ⟨?_, split_quote t, closed_quote_iff t⟩
  have hname : Text.strip ['h'] = ['h'] := by decide
  have hprint : "h(".toList ++ t.quote ++ ")".toList = printCall (Text.strip ['h']) [.constant t.quote] := by
    simp [printCall, Text.join, Argument.print, hname]
  have hstrip := strip_printCall (p := ['h']) (by decide) [.constant t.quote]
  have hjoin : Text.join ", ".toList ([Argument.constant t.quote].map Argument.print) = t.quote := by
    simp [Text.join, Argument.print]
  rw [hname] at hprint hstrip
  rw [hjoin] at hstrip
  rw [hprint, call?_eq hstrip (by decide), hname, List.isEmpty_cons, Bool.false_or, closesAtEnd_quote,
    closesAtEnd_paren, List.dropLast_concat, arguments?_quote]
  by_cases hlast : t.getLast? = some '\\'
  · have hopen : (start.run t.quote).quote.isNone = false := by
      rw [Bool.eq_false_iff, ne_eq, Option.isNone_iff_eq_none]
      exact fun hclosed => (closed_quote_iff t).1 hclosed hlast
    rw [if_pos hlast, hopen]
    rfl
  · have hclosed : (start.run t.quote).quote.isNone = true := Option.isNone_iff_eq_none.2 ((closed_quote_iff t).2 hlast)
    rw [if_neg hlast, hclosed]
    rfl

theorem quoted_backslash_not_read :
    call? ("h(" ++ Text.quote "\\" ++ ")") ≠ some (.call "h".toList [.constant (Text.quote "\\")]) := by
  decide +kernel

end ViewCompiler.Expression
