import ViewCompiler.Text.Blank
import ViewCompiler.Value.Split
import Mathlib.Data.List.Infix

/-!
# Where an expression is split

A scan of an expression knows the brackets and the quote that are open, and the character read last, which matters only
within a quote. So scans that stand clear of brackets and quotes go on alike (`Clear.step_eq`), and an ordinary
character, which is neither a quote mark nor a bracket, changes nothing that counts (`Sound.step_ordinary`).

`Divides` says what the parts of an expression are: no separator is free within a part, and the one behind each part
but the last is. `split` finds exactly these parts (`split_eq_iff`).
-/

namespace ViewCompiler.Expression

variable {c : Char} {sep p t blanks : Text} {parts : List Text}

/-- Whether a character is neither a quote mark nor a bracket. -/
def isOrdinary (c : Char) : Bool := !isQuoteMark c && !Scan.isOpening c && !Scan.isClosing c

theorem isOrdinary_of_isBlank (h : Text.isBlank c = true) : isOrdinary c = true := by
  have hmarks : ("'\"`([\x7b)]\x7d".toList.all fun d => !Text.isBlank d) = true := by decide
  have hne : ∀ d ∈ "'\"`([\x7b)]\x7d".toList, c ≠ d := by
    rintro d hd rfl
    have hblank := List.all_eq_true.1 hmarks c hd
    rw [h] at hblank
    cases hblank
  simp only [String.reduceToList, List.forall_mem_cons] at hne
  simp [isOrdinary, isQuoteMark, Scan.isOpening, Scan.isClosing, hne]

namespace Scan

variable {s s' : Scan}

@[simp] theorem run_nil (s : Scan) : s.run [] = s := rfl

@[simp] theorem run_cons (s : Scan) (c : Char) (t : Text) : s.run (c :: t) = (s.step c).run t := rfl

@[simp] theorem run_append (s : Scan) (p t : Text) : s.run (p ++ t) = (s.run p).run t := List.foldl_append

/-- Outside of all brackets and quotes. -/
def Clear (s : Scan) : Prop := s.quote = none ∧ s.depth = 0

theorem isFree_iff : s.isFree c = true ↔ s.Clear ∧ isOrdinary c = true := by
  simp [isFree, Clear, isOrdinary, and_assoc]

/-! ### What a step can do -/

/-- How many brackets a character opens. -/
def rise (c : Char) : Int := if isOpening c then 1 else if isClosing c then -1 else 0

theorem rise_of_isQuoteMark (h : isQuoteMark c = true) : rise c = 0 := by
  simp only [isQuoteMark, Bool.or_eq_true, beq_iff_eq] at h
  rcases h with (rfl | rfl) | rfl <;> rfl

theorem step_outside (h : s.quote = none) (c : Char) :
    s.step c = ⟨s.depth + rise c, if isQuoteMark c then some c else none, c⟩ := by
  rw [step, h]
  simp only
  split
  · rename_i hmark
    rw [rise_of_isQuoteMark hmark, Int.add_zero]
  · unfold rise
    split
    · rfl
    · split
      · rfl
      · rw [Int.add_zero]

theorem step_within {mark : Char} (h : s.quote = some mark) (c : Char) :
    s.step c = ⟨s.depth, if c == mark && s.last != '\\' then none else some mark, c⟩ := by
  rw [step, h]

/-- The quote goes by the quote and the last character alone, not by the brackets. -/
theorem quote_run_congr (hquote : s.quote = s'.quote) (hlast : s.last = s'.last) (t : Text) :
    (s.run t).quote = (s'.run t).quote := by
  induction t generalizing s s' with
  | nil => exact hquote
  | cons c t ih =>
      rw [run_cons, run_cons]
      cases h : s.quote with
      | none =>
          rw [step_outside h, step_outside (hquote ▸ h)]
          exact ih rfl rfl
      | some mark =>
          rw [step_within h, step_within (hquote ▸ h), hlast]
          exact ih rfl rfl

theorem quote_run_outside (h : s.quote = none) (h' : s'.quote = none) (t : Text) : (s.run t).quote = (s'.run t).quote := by
  cases t with
  | nil => rw [run_nil, run_nil, h, h']
  | cons c t =>
      rw [run_cons, run_cons, step_outside h, step_outside h']
      apply quote_run_congr <;> rfl

/-! ### Ordinary characters -/

/-- Only a quote mark opens a quote. -/
def Sound (s : Scan) : Prop := ∀ mark ∈ s.quote, isQuoteMark mark = true

theorem sound_start : start.Sound := nofun

theorem Sound.step (h : s.Sound) (c : Char) : (s.step c).Sound := by
  intro mark hmark
  cases hquote : s.quote with
  | none =>
      rw [step_outside hquote] at hmark
      simp only [Option.mem_ite_none_right, Option.mem_some_iff] at hmark
      exact hmark.2 ▸ hmark.1
  | some other =>
      rw [step_within hquote] at hmark
      simp only [Option.mem_ite_none_left, Option.mem_some_iff] at hmark
      exact h mark (hmark.2 ▸ hquote)

theorem Sound.run (h : s.Sound) (t : Text) : (s.run t).Sound := by
  induction t generalizing s with
  | nil => exact h
  | cons c t ih => exact ih (h.step c)

theorem Sound.step_ordinary (h : s.Sound) (hc : isOrdinary c = true) : s.step c = { s with last := c } := by
  simp only [isOrdinary, Bool.and_eq_true, Bool.not_eq_true'] at hc
  obtain ⟨⟨hmark, hopening⟩, hclosing⟩ := hc
  cases hquote : s.quote with
  | none =>
      rw [step_outside hquote, rise, hopening, hclosing, hmark]
      simp
  | some mark =>
      have hne : (c == mark) = false := by
        rw [beq_eq_false_iff_ne]
        rintro rfl
        rw [h c hquote] at hmark
        cases hmark
      rw [step_within hquote, hne]
      simp

theorem Sound.run_blanks (h : s.Sound) (hblanks : blanks.isAllBlank = true) :
    (s.run blanks).quote = s.quote ∧ (s.run blanks).depth = s.depth := by
  induction blanks generalizing s with
  | nil => exact ⟨rfl, rfl⟩
  | cons c blanks ih =>
      rw [Text.isAllBlank, List.all_cons, Bool.and_eq_true] at hblanks
      have hstep := h.step_ordinary (isOrdinary_of_isBlank hblanks.1)
      obtain ⟨hquote, hdepth⟩ := ih (h.step c) hblanks.2
      rw [run_cons, hquote, hdepth, hstep]
      exact ⟨rfl, rfl⟩

/-! ### Clear of brackets and quotes -/

theorem clear_start : start.Clear := ⟨rfl, rfl⟩

theorem Clear.step_eq (h : s.Clear) (h' : s'.Clear) (c : Char) : s.step c = s'.step c := by
  rw [step_outside h.1, step_outside h'.1, h.2, h'.2]

theorem Clear.isFree (h : s.Clear) (c : Char) : s.isFree c = isOrdinary c := by
  rw [Bool.eq_iff_iff, isFree_iff]
  exact and_iff_right h

theorem Clear.run_iff (h : s.Clear) (h' : s'.Clear) (t : Text) : (s.run t).Clear ↔ (s'.run t).Clear := by
  cases t with
  | nil => exact iff_of_true h h'
  | cons c t => rw [run_cons, run_cons, h.step_eq h']

theorem Clear.step (h : s.Clear) (hc : isOrdinary c = true) : (s.step c).Clear := by
  have hsound : s.Sound := fun mark hmark => by rw [h.1] at hmark; cases hmark
  rw [hsound.step_ordinary hc]
  exact h

/-- Every character of a text is read where `P` holds, when the text is read from the scan `s` on. -/
def Reads (P : Scan → Char → Prop) (s : Scan) (p : Text) : Prop :=
  ∀ front c back, p = front ++ c :: back → P (s.run front) c

variable {P : Scan → Char → Prop}

theorem reads_nil (P : Scan → Char → Prop) (s : Scan) : Reads P s [] := by
  intro front c back h
  simp at h

theorem reads_cons : Reads P s (c :: p) ↔ P s c ∧ Reads P (s.step c) p := by
  constructor
  · intro h
    refine ⟨h [] c p rfl, fun front d back hp => ?_⟩
    exact h (c :: front) d back (by rw [hp, List.cons_append])
  · intro ⟨hc, hp⟩ front d back heq
    cases front with
    | nil =>
        cases heq
        exact hc
    | cons e front =>
        cases heq
        exact hp front d back rfl

theorem reads_append : Reads P s (p ++ t) ↔ Reads P s p ∧ Reads P (s.run p) t := by
  induction p generalizing s with
  | nil => simp [reads_nil]
  | cons c p ih => rw [List.cons_append, reads_cons, reads_cons, ih, and_assoc, run_cons]

end Scan

open Scan

/-! ### Parts -/

/-- No separator in a text is free. -/
def Solid (sep : Text) : Scan → Text → Prop := Reads fun s c => sep = [c] → s.isFree c = false

theorem Solid.of_clear {s s' : Scan} (hs : s.Clear) (hs' : s'.Clear) (h : Solid sep s p) : Solid sep s' p := by
  cases p with
  | nil => exact reads_nil _ s'
  | cons c p =>
      rw [Solid, reads_cons] at h ⊢
      rw [hs'.isFree, ← hs.isFree, ← hs.step_eq hs']
      exact h

theorem splitFrom_cons_free {s : Scan} (h : s.isFree c = true) (t : Text) : splitFrom [c] s (c :: t) =
    ([], (splitFrom [c] (s.step c) t).1 :: (splitFrom [c] (s.step c) t).2) := by
  simp [splitFrom, h]

theorem splitFrom_append {s : Scan} (h : Solid sep s p) (t : Text) : splitFrom sep s (p ++ t) =
    (p ++ (splitFrom sep (s.run p) t).1, (splitFrom sep (s.run p) t).2) := by
  induction p generalizing s with
  | nil => rfl
  | cons c p ih =>
      rw [Solid, reads_cons] at h
      have hnot : ¬ (s.isFree c && decide (sep = [c])) = true := by
        rw [Bool.and_eq_true, decide_eq_true_eq]
        rintro ⟨hfree, hsep⟩
        rw [h.1 hsep] at hfree
        cases hfree
      rw [List.cons_append, splitFrom, ih h.2]
      exact if_neg hnot

theorem split_of_solid (h : Solid sep start t) : split sep t = [t] := by
  have hwhole := splitFrom_append h []
  rw [List.append_nil] at hwhole
  simp [split, hwhole, splitFrom]

theorem splitFrom_of_clear {s s' : Scan} (hs : s.Clear) (hs' : s'.Clear) (sep t : Text) :
    splitFrom sep s t = splitFrom sep s' t := by
  cases t with
  | nil => rfl
  | cons c t => rw [splitFrom, splitFrom, hs.step_eq hs', hs.isFree, hs'.isFree]

/-- An expression and its parts between separators. -/
inductive Divides (c : Char) : Text → List Text → Prop
  | last {p : Text} (hsolid : Solid [c] .start p) : Divides c p [p]
  | cons {p t : Text} {parts : List Text} (hsolid : Solid [c] .start p) (hfree : (start.run p).isFree c = true)
      (hrest : Divides c t parts) : Divides c (p ++ c :: t) (p :: parts)

theorem Divides.split_eq (h : Divides c t parts) : split [c] t = parts := by
  induction h with
  | last hsolid => exact split_of_solid hsolid
  | @cons p t parts hsolid hfree hrest ih =>
      obtain ⟨hbefore, hc⟩ := isFree_iff.1 hfree
      have hclear := hbefore.step hc
      rw [← ih, split, splitFrom_append hsolid, splitFrom_cons_free hfree, splitFrom_of_clear hclear clear_start]
      simp [split]

/-- What has been read of the first part is taken up again by `q`. -/
theorem divides_splitFrom {q : Text} (hq : Solid [c] .start q) (t : Text) : Divides c (q ++ t)
    ((q ++ (splitFrom [c] (start.run q) t).1) :: (splitFrom [c] (start.run q) t).2) := by
  induction t generalizing q with
  | nil =>
      rw [splitFrom, List.append_nil]
      exact .last hq
  | cons d t ih =>
      by_cases hsep : (start.run q).isFree d = true ∧ d = c
      · obtain ⟨hfree, rfl⟩ := hsep
        obtain ⟨hbefore, hd⟩ := isFree_iff.1 hfree
        have hclear := hbefore.step hd
        rw [splitFrom_cons_free hfree, splitFrom_of_clear hclear clear_start, List.append_nil]
        exact .cons hq hfree (ih (reads_nil _ start))
      · have hnext : Solid [c] (start.run q) [d] := by
          refine reads_cons.2 ⟨fun heq => ?_, reads_nil _ _⟩
          rw [Bool.eq_false_iff]
          exact fun hfree => hsep ⟨hfree, (List.cons.inj heq).1.symm⟩
        have hlater := ih (reads_append.2 ⟨hq, hnext⟩)
        have hstep := splitFrom_append hnext t
        rw [List.singleton_append] at hstep
        rw [hstep]
        simpa using hlater

theorem split_eq_iff : split [c] t = parts ↔ Divides c t parts := by
  refine ⟨?_, Divides.split_eq⟩
  rintro rfl
  exact divides_splitFrom (reads_nil _ start) t

end ViewCompiler.Expression
