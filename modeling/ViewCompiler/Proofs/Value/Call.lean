import ViewCompiler.Proofs.Sequence
import ViewCompiler.Proofs.Text.Words
import ViewCompiler.Proofs.Value.Split
import ViewCompiler.Value.Call

/-!
# Calls that are read and written again

Two scanners look at the arguments of a call. `closesAtEnd` counts parentheses only, `split` counts brackets of every
kind and may end with some open or fall below zero. They agree about quotes, and a blank outside of quotes means nothing
to either. Arguments that are stripped and joined anew differ from what was read in such blanks alone, so the call is
read as before.
-/

namespace ViewCompiler

theorem Argument.print_ofText (t : Text) : (Argument.ofText t).print = t.strip := by
  simp only [Argument.ofText]
  split <;> rfl

namespace Expression

open Scan
open Text (join_cons)

variable {c : Char} {p q t u blanks : Text} {parts : List Text} {depth : Nat} {s : Scan}

/-! ### Texts in which every quote is closed -/

def Closed (p : Text) : Prop := (start.run p).quote = none

theorem Closed.append_iff (hp : Closed p) : Closed (p ++ q) ↔ Closed q := by
  rw [Closed, run_append, quote_run_outside hp clear_start.1, Closed]

theorem closed_singleton (hc : isOrdinary c = true) : Closed [c] := by
  rw [Closed, run_cons, sound_start.step_ordinary hc]
  rfl

theorem clear_run_blanks (h : blanks.isAllBlank = true) : (start.run blanks).Clear := sound_start.run_blanks h

theorem closed_strip_iff : Closed p.strip ↔ Closed p := by
  obtain ⟨front, back, hp, hfront, hback⟩ := Text.exists_blanks_around p
  have hclosed : Closed front := (clear_run_blanks hfront).1
  generalize p.strip = middle at hp
  rw [hp, hclosed.append_iff, Closed, Closed, run_append, ((sound_start.run middle).run_blanks hback).1]

theorem clear_strip_iff : (start.run p.strip).Clear ↔ (start.run p).Clear := by
  obtain ⟨front, back, hp, hfront, hback⟩ := Text.exists_blanks_around p
  generalize p.strip = middle at hp
  have hsame := (((sound_start.run front).run middle).run_blanks hback)
  rw [hp, run_append, run_append, Clear.run_iff clear_start (clear_run_blanks hfront), Clear, Clear, hsame.1, hsame.2]

theorem solid_strip (h : Solid [c] .start p) : Solid [c] .start p.strip := by
  obtain ⟨front, back, hp, hfront, hback⟩ := Text.exists_blanks_around p
  generalize p.strip = middle at hp
  rw [hp, Solid, reads_append, reads_append] at h
  exact Solid.of_clear (clear_run_blanks hfront) clear_start h.2.1

/-! ### The closing parenthesis -/

/-- The parentheses that are open behind a character. -/
def nested (depth : Nat) (s : Scan) (c : Char) : Nat :=
  if s.quote = none then if c = '(' then depth + 1 else if c = ')' then depth - 1 else depth else depth

theorem closesAtEnd_cons (s : Scan) (depth : Nat) (c : Char) (t : Text) : closesAtEnd depth s.quote s.last (c :: t) =
    if s.quote = none ∧ c = ')' ∧ depth ≤ 1 then t.isEmpty
    else closesAtEnd (nested depth s c) (s.step c).quote (s.step c).last t := by
  cases hquote : s.quote with
  | none =>
      rw [step_outside hquote, closesAtEnd, nested, if_pos hquote]
      by_cases hmark : isQuoteMark c = true
      · have hne : c ≠ '(' ∧ c ≠ ')' := by
          constructor
          · rintro rfl
            cases hmark
          · rintro rfl
            cases hmark
        simp [hmark, hne]
      · by_cases hopen : c = '('
        · simp [hopen, isQuoteMark]
        · by_cases hclose : c = ')'
          · simp [hclose, isQuoteMark]
          · simp [hmark, hopen, hclose]
  | some mark =>
      rw [step_within hquote, closesAtEnd, nested]
      simp [hquote]

/-- Outside of quotes the character read last does not count. -/
theorem closesAtEnd_outside (depth : Nat) (last last' : Char) (t : Text) :
    closesAtEnd depth none last t = closesAtEnd depth none last' t := by
  cases t <;> rfl

theorem closesAtEnd_blanks (h : blanks.isAllBlank = true) (depth : Nat) (last : Char) (u : Text) :
    closesAtEnd depth none last (blanks ++ u) = closesAtEnd depth none last u := by
  induction blanks generalizing last with
  | nil => rfl
  | cons c blanks ih =>
      rw [Text.isAllBlank, List.all_cons, Bool.and_eq_true] at h
      have hordinary := isOrdinary_of_isBlank h.1
      have hclose : c ≠ ')' := by
        rintro rfl
        cases hordinary
      have hopen : c ≠ '(' := by
        rintro rfl
        cases hordinary
      have hmark : isQuoteMark c = false := by
        simp only [isOrdinary, Bool.and_eq_true, Bool.not_eq_true'] at hordinary
        exact hordinary.1.1
      rw [List.cons_append, closesAtEnd]
      simp only [hmark, hopen, hclose, if_false, Bool.false_eq_true]
      rw [ih h.2, closesAtEnd_outside depth c last]

/-- Blanks outside of quotes may be taken out. -/
theorem closesAtEnd_skip (hp : (s.run p).quote = none) (h : blanks.isAllBlank = true) (hu : u ≠ []) :
    closesAtEnd depth s.quote s.last (p ++ (blanks ++ u)) = closesAtEnd depth s.quote s.last (p ++ u) := by
  induction p generalizing s depth with
  | nil =>
      rw [run_nil] at hp
      rw [hp, List.nil_append, List.nil_append, closesAtEnd_blanks h]
  | cons c p ih =>
      have hempty : (p ++ (blanks ++ u)).isEmpty = (p ++ u).isEmpty := by
        rw [Bool.eq_iff_iff, List.isEmpty_iff, List.isEmpty_iff]
        simp [hu]
      rw [List.cons_append, List.cons_append, closesAtEnd_cons, closesAtEnd_cons, hempty, ih hp]

theorem exists_of_closesAtEnd (h : closesAtEnd depth s.quote s.last t = true) :
    ∃ inner, t = inner ++ [')'] ∧ (s.run inner).quote = none := by
  induction t generalizing s depth with
  | nil => cases h
  | cons c t ih =>
      rw [closesAtEnd_cons] at h
      split at h
      · rename_i hclose
        obtain ⟨hquote, rfl, -⟩ := hclose
        rw [List.isEmpty_iff.1 h]
        exact ⟨[], rfl, hquote⟩
      · obtain ⟨inner, rfl, hquote⟩ := ih h
        exact ⟨c :: inner, rfl, hquote⟩

/-! ### Arguments joined anew -/

theorem Divides.ne_nil (h : Divides c t parts) : parts ≠ [] := by
  cases h <;> exact List.cons_ne_nil _ _

/-- The parts of an expression without the blanks around them, but for one blank behind each comma. -/
def respaced : List Text → List Text
  | [] => []
  | p :: others => p.strip :: others.map fun q => ' ' :: q.strip

theorem Divides.cons_blank (h : Divides c t (p :: parts)) {b : Char} (hb : Text.isBlank b = true) (hne : b ≠ c) :
    Divides c (b :: t) ((b :: p) :: parts) := by
  have hclear : (start.step b).Clear := clear_start.step (isOrdinary_of_isBlank hb)
  have hsolid : ∀ {p : Text}, Solid [c] start p → Solid [c] start (b :: p) := by
    intro p hp
    exact reads_cons.2 ⟨fun heq => absurd (List.cons.inj heq).1.symm hne, hp.of_clear clear_start hclear⟩
  cases h with
  | last hp => exact .last (hsolid hp)
  | cons hp hfree hrest =>
      obtain ⟨hbefore, hc⟩ := isFree_iff.1 hfree
      exact .cons (hsolid hp) (isFree_iff.2 ⟨(clear_start.run_iff hclear _).1 hbefore, hc⟩) hrest

theorem divides_respaced (h : Divides ',' t parts) :
    Divides ',' (Text.join ", ".toList (parts.map Text.strip)) (respaced parts) := by
  induction h with
  | last hsolid => simpa [Text.join, respaced] using Divides.last (solid_strip hsolid)
  | @cons p t parts hsolid hfree hrest ih =>
      have hjoin : Text.join ", ".toList ((p :: parts).map Text.strip) =
          p.strip ++ ',' :: ' ' :: Text.join ", ".toList (parts.map Text.strip) := by
        rw [List.map_cons, join_cons (by simpa using hrest.ne_nil)]
        simp
      obtain ⟨hbefore, hc⟩ := isFree_iff.1 hfree
      rw [hjoin]
      refine .cons (solid_strip hsolid) (isFree_iff.2 ⟨clear_strip_iff.2 hbefore, hc⟩) ?_
      cases parts with
      | nil => cases hrest
      | cons q others => exact ih.cons_blank (by decide) (by decide)

theorem closesAtEnd_strip (hq : Closed q) (hp : Closed p) (hu : u ≠ []) (depth : Nat) :
    closesAtEnd depth none ' ' (q ++ (p ++ u)) = closesAtEnd depth none ' ' (q ++ (p.strip ++ u)) := by
  obtain ⟨front, back, heq, hfront, hback⟩ := Text.exists_blanks_around p
  have hstrip := closed_strip_iff.2 hp
  generalize p.strip = middle at heq hstrip
  have hbehind : back ++ u ≠ [] := by simp [hu]
  have hmiddle : middle ++ (back ++ u) ≠ [] := by simp [hu]
  calc closesAtEnd depth none ' ' (q ++ (p ++ u))
      = closesAtEnd depth none ' ' (q ++ (front ++ (middle ++ (back ++ u)))) := by rw [heq]; simp
    _ = closesAtEnd depth none ' ' (q ++ (middle ++ (back ++ u))) := closesAtEnd_skip (s := start) hq hfront hmiddle
    _ = closesAtEnd depth none ' ' ((q ++ middle) ++ (back ++ u)) := by rw [List.append_assoc]
    _ = closesAtEnd depth none ' ' ((q ++ middle) ++ u) :=
        closesAtEnd_skip (s := start) (hq.append_iff.2 hstrip) hback hu
    _ = closesAtEnd depth none ' ' (q ++ (middle ++ u)) := by rw [List.append_assoc]

theorem Divides.closesAtEnd_eq (h : Divides ',' t parts) (ht : Closed t) (hq : Closed q) (hu : u ≠ []) (depth : Nat) :
    closesAtEnd depth none ' ' (q ++ (t ++ u)) =
      closesAtEnd depth none ' ' (q ++ (Text.join ", ".toList (parts.map Text.strip) ++ u)) := by
  induction h generalizing q with
  | @last p hsolid =>
      rw [closesAtEnd_strip hq ht hu]
      simp [Text.join]
  | @cons p t parts hsolid hfree hrest ih =>
      obtain ⟨⟨hp, -⟩, hcomma⟩ := isFree_iff.1 hfree
      change Closed p at hp
      have hbefore : Closed (q ++ (p.strip ++ [','])) :=
        hq.append_iff.2 ((closed_strip_iff.2 hp).append_iff.2 (closed_singleton hcomma))
      have hspace : Closed (q ++ (p.strip ++ [',']) ++ [' ']) := hbefore.append_iff.2 (closed_singleton (by decide))
      have hlater : Closed t := by
        rw [hp.append_iff, ← List.singleton_append, (closed_singleton hcomma).append_iff] at ht
        exact ht
      calc closesAtEnd depth none ' ' (q ++ (p ++ ',' :: t ++ u))
          = closesAtEnd depth none ' ' (q ++ (p ++ (',' :: t ++ u))) := by simp
        _ = closesAtEnd depth none ' ' (q ++ (p.strip ++ (',' :: t ++ u))) := closesAtEnd_strip hq hp (by simp) depth
        _ = closesAtEnd depth none ' ' (q ++ (p.strip ++ [',']) ++ (t ++ u)) := by simp
        _ = closesAtEnd depth none ' ' (q ++ (p.strip ++ [',']) ++ ([' '] ++ (t ++ u))) :=
            (closesAtEnd_skip (s := start) hbefore (by decide) (by simp [hu])).symm
        _ = closesAtEnd depth none ' ' (q ++ (p.strip ++ [',']) ++ [' '] ++ (t ++ u)) := by simp
        _ = closesAtEnd depth none ' ' (q ++ (p.strip ++ [',']) ++ [' '] ++
              (Text.join ", ".toList (parts.map Text.strip) ++ u)) := ih hlater hspace
        _ = closesAtEnd depth none ' ' (q ++ (Text.join ", ".toList ((p :: parts).map Text.strip) ++ u)) := by
            rw [List.map_cons, join_cons (by simpa using hrest.ne_nil)]
            simp

/-! ### Arguments -/

variable {a : Argument} {arguments : List Argument}

theorem argument?_congr (h : p.strip = q.strip) : argument? p = argument? q := by
  simp only [argument?, h]

theorem strip_ne_nil_of_argument? (h : argument? p = some a) : p.strip ≠ [] := by
  intro hnil
  simp [argument?, hnil] at h

theorem print_of_argument? (h : argument? p = some a) : a.print = p.strip := by
  simp only [argument?] at h
  split at h
  · cases h
  split at h
  · rename_i hplaceholder
    cases h
    exact hplaceholder.symm
  · cases h
    rw [Argument.print_ofText, Text.strip_strip]

/-- The arguments of parts that are stripped and spaced anew are what they were. -/
theorem forall₂_respaced (h : List.Forall₂ (fun p a => argument? p = some a) parts arguments) :
    List.Forall₂ (fun p a => argument? p = some a) (respaced parts) arguments := by
  cases h with
  | nil => exact .nil
  | @cons p a others arguments hfirst hothers =>
      refine .cons ?_ (List.forall₂_map_left_iff.2 (hothers.imp ?_))
      · rw [argument?_congr (Text.strip_strip p), hfirst]
      · intro q a hq
        have hspace : Text.strip (' ' :: q.strip) = q.strip := by rw [Text.strip_space, Text.strip_strip]
        rw [argument?_congr hspace, hq]

theorem map_print_eq (h : List.Forall₂ (fun p a => argument? p = some a) parts arguments) :
    arguments.map Argument.print = parts.map Text.strip := by
  induction h with
  | nil => rfl
  | cons hfirst _ ih => rw [List.map_cons, List.map_cons, ih, print_of_argument? hfirst]

theorem arguments?_eq_some_iff {inner : Text} : arguments? inner = some arguments ↔
    (inner.isAllBlank = true ∧ arguments = []) ∨
      (inner.isAllBlank = false ∧ List.Forall₂ (fun p a => argument? p = some a) (split [','] inner) arguments) := by
  rw [arguments?]
  split
  · rename_i hblank
    simp [hblank, eq_comm]
  · rename_i hblank
    rw [Bool.not_eq_true] at hblank
    simp [hblank, mapM_eq_some_iff]

theorem isAllBlank_join {sep : Text} (hp : p.strip ≠ []) (parts : List Text) :
    Text.isAllBlank (Text.join sep (p.strip :: parts)) = false := by
  obtain ⟨c, rest, hstrip⟩ := List.exists_cons_of_ne_nil hp
  have hc : Text.isBlank c = false := Text.stops_strip p c (by rw [hstrip]; rfl)
  cases parts with
  | nil => simp [Text.join, Text.isAllBlank, hstrip, hc]
  | cons q others => simp [Text.join, List.intercalate, Text.isAllBlank, hstrip, hc]

/-! ### Calls -/

theorem closesAtEnd_open (rest : Text) : closesAtEnd 0 none '(' ('(' :: rest) = closesAtEnd 1 none ' ' rest :=
  closesAtEnd_outside 1 '(' ' ' rest

theorem call?_eq {head rest : Text} (ht : t.strip = head ++ '(' :: rest) (hhead : '(' ∉ head) : call? t =
    if head.strip.isEmpty || !closesAtEnd 1 none ' ' rest then none
    else (arguments? rest.dropLast).map fun arguments => .call head.strip arguments := by
  have hclass : ∀ c ∈ head, (c != '(') = true := by
    intro c hc
    exact bne_iff_ne.2 (ne_of_mem_of_not_mem hc hhead)
  rw [call?, ht, Text.takeWhile_append_stops hclass (Text.stops_cons.2 (by decide)), List.drop_left]
  simp only [closesAtEnd_open]

theorem call?_eq_none (h : '(' ∉ t.strip) : call? t = none := by
  have hwhole : t.strip.takeWhile (· != '(') = t.strip := by
    rw [List.takeWhile_eq_self_iff]
    intro c hc
    exact bne_iff_ne.2 (ne_of_mem_of_not_mem hc h)
  rw [call?, hwhole, List.drop_length]

theorem call?_eq_some_iff {value : Value} : call? t = some value ↔
    ∃ head inner arguments, t.strip = head ++ '(' :: (inner ++ [')']) ∧ '(' ∉ head ∧ head.strip ≠ [] ∧
      closesAtEnd 1 none ' ' (inner ++ [')']) = true ∧ arguments? inner = some arguments ∧
      value = .call head.strip arguments := by
  constructor
  · intro h
    by_cases hparen : '(' ∈ t.strip
    · obtain ⟨head, rest, ht, hhead⟩ := List.eq_append_cons_of_mem hparen
      rw [call?_eq ht hhead] at h
      split at h
      · cases h
      · rename_i hboth
        rw [Bool.or_eq_true, not_or, List.isEmpty_iff, Bool.not_eq_true, Bool.not_eq_false'] at hboth
        obtain ⟨inner, rfl, -⟩ := exists_of_closesAtEnd (s := start) hboth.2
        obtain ⟨arguments, harguments, rfl⟩ := Option.map_eq_some_iff.1 h
        rw [List.dropLast_concat] at harguments
        exact ⟨head, inner, arguments, ht, hhead, hboth.1, hboth.2, harguments, rfl⟩
    · rw [call?_eq_none hparen] at h
      cases h
  · rintro ⟨head, inner, arguments, ht, hhead, hname, hcloses, harguments, rfl⟩
    have hempty : head.strip.isEmpty = false := by simpa using hname
    rw [call?_eq ht hhead, hempty, hcloses, List.dropLast_concat, harguments]
    rfl

theorem strip_printCall (hname : p.strip ≠ []) (arguments : List Argument) :
    (printCall p.strip arguments).strip =
      p.strip ++ '(' :: (Text.join ", ".toList (arguments.map Argument.print) ++ [')']) := by
  have htext : printCall p.strip arguments =
      p.strip ++ '(' :: (Text.join ", ".toList (arguments.map Argument.print) ++ [')']) := by
    simp [printCall]
  have hfront : Text.Stops Text.isBlank (printCall p.strip arguments) := by
    intro c hc
    rw [htext, List.head?_append_of_ne_nil _ hname] at hc
    exact Text.stops_strip p c hc
  rw [Text.strip_eq_self hfront, htext]
  intro c hc
  have hlast : (printCall p.strip arguments).getLast? = some ')' := by simp [printCall, List.getLast?_cons]
  rw [hlast] at hc
  cases hc
  decide

theorem arguments?_print {inner : Text} (hcloses : closesAtEnd 1 none ' ' (inner ++ [')']) = true)
    (h : arguments? inner = some arguments) :
    closesAtEnd 1 none ' ' (Text.join ", ".toList (arguments.map Argument.print) ++ [')']) = true ∧
      arguments? (Text.join ", ".toList (arguments.map Argument.print)) = some arguments := by
  rcases arguments?_eq_some_iff.1 h with ⟨-, rfl⟩ | ⟨-, hparts⟩
  · exact ⟨rfl, rfl⟩
  have hdivides : Divides ',' inner (split [','] inner) := split_eq_iff.1 rfl
  have hclosed : Closed inner := by
    obtain ⟨inner', heq, hquote⟩ := exists_of_closesAtEnd (s := start) hcloses
    rw [List.append_cancel_right heq]
    exact hquote
  generalize split [','] inner = parts at hparts hdivides
  rw [map_print_eq hparts]
  constructor
  · have hsame := hdivides.closesAtEnd_eq (q := []) (u := [')']) hclosed rfl (by simp) 1
    rw [List.nil_append, List.nil_append] at hsame
    rw [← hsame, hcloses]
  · rw [arguments?_eq_some_iff, (divides_respaced hdivides).split_eq]
    refine Or.inr ⟨?_, forall₂_respaced hparts⟩
    cases hparts with
    | nil => exact absurd rfl hdivides.ne_nil
    | cons hfirst _ => exact isAllBlank_join (strip_ne_nil_of_argument? hfirst) _

/-- A call that is read, and then written in its canonical form, is read as the same call again. -/
theorem printCall_read_again {value : Value} (h : call? t = some value) :
    ∃ name arguments, value = .call name arguments ∧ call? (printCall name arguments) = some value := by
  obtain ⟨head, inner, arguments, -, hhead, hname, hcloses, harguments, rfl⟩ := call?_eq_some_iff.1 h
  obtain ⟨hcloses', harguments'⟩ := arguments?_print hcloses harguments
  refine ⟨head.strip, arguments, rfl, ?_⟩
  have hparen : '(' ∉ head.strip := fun hmem => hhead ((Text.strip_infix head).subset hmem)
  rw [call?_eq_some_iff]
  refine ⟨head.strip, _, arguments, strip_printCall hname arguments, hparen, ?_, hcloses', harguments', ?_⟩
  · rwa [Text.strip_strip]
  · rw [Text.strip_strip]

theorem printCall_read_again_unbalanced :
    call? " go ( # ,'a,\\') ' , x[ (1, 2) )" = some
        (.call "go".toList [.placeholder, .constant "'a,\\') '".toList, .property "x[ (1, 2)".toList]) ∧
      call? "go(#, 'a,\\') ', x[ (1, 2))" = some
        (.call "go".toList [.placeholder, .constant "'a,\\') '".toList, .property "x[ (1, 2)".toList]) := by
  have hread : call? " go ( # ,'a,\\') ' , x[ (1, 2) )" = some
      (.call "go".toList [.placeholder, .constant "'a,\\') '".toList, .property "x[ (1, 2)".toList]) := by
    decide +kernel
  obtain ⟨name, arguments, heq, hagain⟩ := printCall_read_again hread
  cases heq
  exact ⟨hread, hagain⟩

end Expression

end ViewCompiler
