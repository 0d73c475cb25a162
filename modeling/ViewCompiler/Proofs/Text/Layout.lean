import ViewCompiler.Proofs.Text.Words

/-!
# Laying lines out anew

Code is moved by changing the start of every line but the first. Such a change (`mapLines`) is settled line by line,
and on each line by what stands in front of its first character that is not blank, so a passage that starts and ends
with such characters (`Firm`) can be followed through it: whatever the passage is, the text around it comes out the
same, and the passage comes out as it would on its own (`Lays`).
-/

namespace ViewCompiler.Text

variable {f : Text → Text} {c : Char} {s t u x base : Text}

/-! ### Lines -/

theorem unlines_eq (first : Text) (others : List Text) :
    unlines first others = first ++ others.flatMap fun line => '\n' :: line := by
  unfold unlines join
  induction others generalizing first with
  | nil => rw [List.intercalate_singleton, List.flatMap_nil, List.append_nil]
  | cons line others ih =>
      rw [List.intercalate_cons_cons, ih line, List.flatMap_cons, List.append_assoc]
      rfl

theorem lines_break (t : Text) : lines ('\n' :: t) = ([], (lines t).1 :: (lines t).2) := rfl

theorem lines_append_of_notMem (h : '\n' ∉ s) (t : Text) : lines (s ++ t) = (s ++ (lines t).1, (lines t).2) :=
  pieces_append_of_notMem h t

theorem lines_append_break (s t : Text) :
    lines (s ++ '\n' :: t) = ((lines s).1, (lines s).2 ++ (lines t).1 :: (lines t).2) := by
  induction s with
  | nil => rfl
  | cons c s ih =>
      simp only [lines] at ih ⊢
      rw [List.cons_append, pieces, ih, pieces]
      by_cases hbreak : c = '\n'
      · simp only [if_pos hbreak, List.cons_append]
      · simp only [if_neg hbreak]

/-- A text with a line feed, cut at the last one. -/
theorem exists_last_line (h : '\n' ∈ t) : ∃ s u, t = s ++ '\n' :: u ∧ '\n' ∉ u := by
  obtain ⟨front, behind, heq, hnot⟩ := List.eq_append_cons_of_mem (List.mem_reverse.2 h)
  refine ⟨behind.reverse, front.reverse, ?_, fun hmem => hnot (List.mem_reverse.1 hmem)⟩
  rw [← List.reverse_reverse t, heq]
  simp

/-! ### Changing every line but the first -/

def mapLines (f : Text → Text) (t : Text) : Text := unlines (lines t).1 ((lines t).2.map f)

def indentLine (base line : Text) : Text := if line.isEmpty then line else base ++ line

theorem dedent_eq_mapLines (base : Text) : dedent base = mapLines (dedentLine base) := rfl

theorem indent_eq_mapLines (base : Text) : indent base = mapLines (indentLine base) := rfl

theorem mapLines_eq (f : Text → Text) (t : Text) :
    mapLines f t = (lines t).1 ++ (lines t).2.flatMap fun line => '\n' :: f line := by
  rw [mapLines, unlines_eq, List.flatMap_map]

theorem mapLines_break (f : Text → Text) (t : Text) :
    mapLines f ('\n' :: t) = '\n' :: f (lines t).1 ++ (lines t).2.flatMap fun line => '\n' :: f line := by
  rw [mapLines_eq, lines_break, List.nil_append, List.flatMap_cons]

theorem mapLines_append_of_notMem (h : '\n' ∉ s) (t : Text) : mapLines f (s ++ t) = s ++ mapLines f t := by
  rw [mapLines_eq, lines_append_of_notMem h, mapLines_eq, List.append_assoc]

theorem mapLines_cons (hc : c ≠ '\n') (t : Text) : mapLines f (c :: t) = c :: mapLines f t :=
  mapLines_append_of_notMem (s := [c]) (by simpa using hc.symm) t

theorem mapLines_of_notMem (h : '\n' ∉ t) : mapLines f t = t := by
  have hnil := mapLines_append_of_notMem (f := f) h []
  rw [List.append_nil] at hnil
  rw [hnil, mapLines_eq]
  exact List.append_nil t

theorem mapLines_append_break (f : Text → Text) (s t : Text) :
    mapLines f (s ++ '\n' :: t) = mapLines f s ++ mapLines f ('\n' :: t) := by
  rw [mapLines_eq, lines_append_break, mapLines_eq, mapLines_break, List.flatMap_append, List.flatMap_cons,
    List.append_assoc]

theorem mem_mapLines (h : '\n' ∈ t) : '\n' ∈ mapLines f t := by
  obtain ⟨s, u, rfl, -⟩ := exists_last_line h
  rw [mapLines_append_break, mapLines_break]
  exact List.mem_append_right _ List.mem_cons_self

/-! ### Changes of the indentation -/

/-- What the change makes of a line up to its first character that is not blank is settled by what stands in front
of that character. -/
def Steady (f : Text → Text) : Prop :=
  ∀ s, ∃ s', ∀ c rest, isBlank c = false → f (s ++ c :: rest) = s' ++ c :: rest

theorem dropWhile_append_cons {p : Char → Bool} (s : Text) (hc : p c = false) (rest : Text) :
    (s ++ c :: rest).dropWhile p = s.dropWhile p ++ c :: rest := by
  by_cases hs : ∀ d ∈ s, p d = true
  · rw [dropWhile_append_stops hs (stops_cons.2 hc), List.dropWhile_eq_nil_iff.2 hs, List.nil_append]
  · apply dropWhile_append_of_exists
    simpa using hs

/-- A base of blanks does not reach a character that is not blank. -/
theorem startsWith_append_cons (hbase : base.isAllBlank = true) (s : Text) (hc : isBlank c = false) (rest : Text) :
    startsWith (s ++ c :: rest) base = startsWith s base := by
  have hnot : c ∉ base := by
    intro hmem
    rw [List.all_eq_true.1 hbase c hmem] at hc
    cases hc
  have happend : s ++ c :: rest = s ++ [c] ++ rest := by rw [List.append_assoc, List.singleton_append]
  rw [Bool.eq_iff_iff, startsWith_iff, startsWith_iff, happend]
  constructor
  · intro hstarts
    rcases List.prefix_or_prefix_of_prefix hstarts (List.prefix_append (s ++ [c]) rest) with hwithin | hbeyond
    · rcases List.prefix_concat_iff.1 hwithin with heq | hwithin
      · exact absurd (heq ▸ List.mem_concat_self) hnot
      · exact hwithin
    · exact absurd (hbeyond.subset List.mem_concat_self) hnot
  · intro hstarts
    exact hstarts.trans ((List.prefix_append s [c]).trans (List.prefix_append _ rest))

theorem steady_dedentLine (hbase : base.isAllBlank = true) : Steady (dedentLine base) := by
  intro s
  refine ⟨dedentLine base s, fun c rest hc => ?_⟩
  unfold dedentLine
  rw [startsWith_append_cons hbase s hc]
  split
  · rename_i hstarts
    obtain ⟨behind, rfl⟩ := startsWith_iff.1 hstarts
    rw [List.append_assoc, List.drop_left, List.drop_left]
  · apply dropWhile_append_cons
    cases hlayout : c == ' ' || c == '\t' with
    | false => rfl
    | true =>
        rw [isBlank_of_layout hlayout] at hc
        cases hc

theorem steady_indentLine (base : Text) : Steady (indentLine base) := by
  intro s
  refine ⟨base ++ s, fun c rest _ => ?_⟩
  rw [indentLine, if_neg (by simp), List.append_assoc]

theorem ne_break (hc : isBlank c = false) : c ≠ '\n' := by
  intro heq
  rw [heq] at hc
  exact absurd hc (by decide)

/-- The text in front of a character that is not blank comes out as `s'`, whatever follows the character; and it comes
out with a line feed only if it has one. -/
structure Leads (g : Text → Text) (s s' : Text) : Prop where
  eq : ∀ c rest, isBlank c = false → g (s ++ c :: rest) = s' ++ c :: g rest
  same : '\n' ∉ s → s' = s
  breaks : '\n' ∈ s → '\n' ∈ s'

theorem Steady.exists_leads (hf : Steady f) (s : Text) : ∃ s', Leads (mapLines f) s s' := by
  by_cases hbreak : '\n' ∈ s
  · obtain ⟨front, line, rfl, hline⟩ := exists_last_line hbreak
    obtain ⟨line', heq⟩ := hf line
    refine ⟨mapLines f front ++ '\n' :: line', ⟨fun c rest hc => ?_, fun hnot => absurd hbreak hnot, fun _ => by simp⟩⟩
    have hc' : '\n' ∉ [c] := by simpa using (ne_break hc).symm
    have hlines : lines (line ++ c :: rest) = (line ++ c :: (lines rest).1, (lines rest).2) := by
      rw [lines_append_of_notMem hline, ← List.singleton_append, lines_append_of_notMem hc']
      rfl
    rw [List.append_assoc, List.cons_append, mapLines_append_break, mapLines_break, hlines, heq c _ hc, mapLines_eq f rest]
    simp
  · refine ⟨s, ⟨fun c rest hc => ?_, fun _ => rfl, fun hmem => absurd hmem hbreak⟩⟩
    rw [mapLines_append_of_notMem hbreak, mapLines_cons (ne_break hc)]

theorem Leads.comp {g h : Text → Text} {s s' s'' : Text} (hg : Leads g s s') (hh : Leads h s' s'') :
    Leads (fun t => h (g t)) s s'' where
  eq c rest hc := by rw [hg.eq c rest hc, hh.eq c _ hc]
  same hnot := by
    have heq := hg.same hnot
    rw [hh.same (heq ▸ hnot), heq]
  breaks hmem := hh.breaks (hg.breaks hmem)

/-- A text with a character that is not blank on its last line is laid out independently of what follows. -/
theorem Steady.mapLines_append (hf : Steady f) (s : Text) (hc : isBlank c = false) (hu : '\n' ∉ u) (t : Text) :
    mapLines f (s ++ c :: u ++ t) = mapLines f (s ++ c :: u) ++ mapLines f t := by
  obtain ⟨s', hleads⟩ := hf.exists_leads s
  rw [List.append_assoc, List.cons_append, hleads.eq c _ hc, hleads.eq c _ hc, mapLines_append_of_notMem hu,
    mapLines_of_notMem hu, List.append_assoc, List.cons_append]

/-! ### Passages -/

/-- The text starts and ends with characters that are not blank. -/
structure Firm (x : Text) : Prop where
  first : ∃ c rest, x = c :: rest ∧ isBlank c = false
  last : ∃ front c, x = front ++ [c] ∧ isBlank c = false

theorem Firm.last_line {line : Text} (hx : Firm (s ++ '\n' :: line)) :
    ∃ front c, line = front ++ [c] ∧ isBlank c = false := by
  obtain ⟨front, c, heq, hc⟩ := hx.last
  have hlast : line.getLast?.or (some '\n') = some c := by
    rw [← List.getLast?_concat (l := front) (a := c), ← heq, List.getLast?_append, List.getLast?_cons]
    cases line.getLast? <;> rfl
  cases line using List.reverseRecOn with
  | nil =>
      cases hlast
      exact absurd hc (by decide)
  | append_singleton front' d =>
      rw [List.getLast?_concat] at hlast
      cases hlast
      exact ⟨front', c, rfl, hc⟩

/-- What becomes of a passage within a text: the text around it comes out the same whatever the passage is, and the
passage in it comes out as `h` makes it. -/
structure Lays (g h : Text → Text) : Prop where
  firm : ∀ x, Firm x → Firm (h x)
  around : ∀ s t, ∃ s' t', ∀ x, Firm x → g (s ++ x ++ t) = s' ++ h x ++ t'

theorem lays_append (s t : Text) : Lays (fun x => s ++ x ++ t) id where
  firm _ hx := hx
  around s' t' := ⟨s ++ s', t' ++ t, fun x _ => by simp⟩

theorem Lays.comp {g g' h h' : Text → Text} (hg : Lays g h) (hg' : Lays g' h') :
    Lays (fun x => g' (g x)) fun x => h' (h x) where
  firm x hx := hg'.firm _ (hg.firm x hx)
  around s t := by
    obtain ⟨s', t', heq⟩ := hg.around s t
    obtain ⟨s'', t'', heq'⟩ := hg'.around s' t'
    refine ⟨s'', t'', fun x hx => ?_⟩
    show g' (g _) = _
    rw [heq x hx, heq' _ (hg.firm x hx)]

theorem lays_strip : Lays strip id where
  firm _ hx := hx
  around s t := by
    refine ⟨stripLeft s, stripRight t, fun x hx => ?_⟩
    obtain ⟨c, rest, heq, hc⟩ := hx.first
    obtain ⟨front, d, heq', hd⟩ := hx.last
    have hleft : stripLeft (s ++ x ++ t) = stripLeft s ++ x ++ t := by
      rw [heq, stripLeft, List.append_assoc, List.cons_append, dropWhile_append_cons s hc, stripLeft, List.append_assoc,
        List.cons_append]
    rw [strip, hleft, id, heq', stripRight, stripRight]
    have hreverse : (stripLeft s ++ (front ++ [d]) ++ t).reverse =
        t.reverse ++ d :: (front.reverse ++ (stripLeft s).reverse) := by simp
    rw [hreverse, dropWhile_append_cons _ hd]
    simp

theorem Steady.lays (hf : Steady f) : Lays (mapLines f) (mapLines f) where
  firm x hx := by
    obtain ⟨c, rest, heq, hc⟩ := hx.first
    obtain ⟨front, d, heq', hd⟩ := hx.last
    constructor
    · refine ⟨c, mapLines f rest, ?_, hc⟩
      rw [heq, mapLines_cons (ne_break hc)]
    · obtain ⟨front', hleads⟩ := hf.exists_leads front
      refine ⟨front', d, ?_, hd⟩
      rw [heq', hleads.eq d [] hd]
      rfl
  around s t := by
    obtain ⟨s', hleads⟩ := hf.exists_leads s
    refine ⟨s', mapLines f t, fun x hx => ?_⟩
    obtain ⟨c, rest, heq, hc⟩ := hx.first
    obtain ⟨front, d, heq', hd⟩ := hx.last
    have hfront : mapLines f (s ++ x ++ t) = s' ++ mapLines f (x ++ t) := by
      rw [heq, List.append_assoc, List.cons_append, hleads.eq c _ hc, mapLines_cons (ne_break hc)]
    have hbehind := hf.mapLines_append front hd (List.not_mem_nil (a := '\n')) t
    rw [hfront, heq', hbehind, List.append_assoc]

/-! ### One level deeper -/

/-- Code whose lines start with the base, moved one unit to the right. -/
def deepen (unit base t : Text) : Text := indent base (indent unit (dedent base t))

theorem deepen_of_notMem (unit base : Text) (h : '\n' ∉ t) : deepen unit base t = t := by
  rw [deepen, dedent_eq_mapLines, indent_eq_mapLines, indent_eq_mapLines, mapLines_of_notMem h, mapLines_of_notMem h,
    mapLines_of_notMem h]

theorem exists_leads_deepen (unit : Text) (hbase : base.isAllBlank = true) (s : Text) :
    ∃ s', Leads (deepen unit base) s s' := by
  obtain ⟨s₁, hdedent⟩ := (steady_dedentLine hbase).exists_leads s
  obtain ⟨s₂, hunit⟩ := (steady_indentLine unit).exists_leads s₁
  obtain ⟨s₃, hindent⟩ := (steady_indentLine base).exists_leads s₂
  exact ⟨s₃, (hdedent.comp hunit).comp hindent⟩

theorem Firm.deepen (hx : Firm x) (unit : Text) (hbase : base.isAllBlank = true) : Firm (deepen unit base x) :=
  (steady_indentLine base).lays.firm _ ((steady_indentLine unit).lays.firm _ ((steady_dedentLine hbase).lays.firm x hx))

theorem mem_deepen (unit base : Text) (h : '\n' ∈ t) : '\n' ∈ deepen unit base t :=
  mem_mapLines (mem_mapLines (mem_mapLines h))

/-- How many spaces the last line starts with. -/
def depth (t : Text) : Nat := ((t.reverse.takeWhile (· != '\n')).reverse.takeWhile (· == ' ')).length

theorem depth_append_break (s : Text) (h : '\n' ∉ u) : depth (s ++ '\n' :: u) = (u.takeWhile (· == ' ')).length := by
  have hline : (s ++ '\n' :: u).reverse.takeWhile (· != '\n') = u.reverse := by
    rw [List.reverse_append, List.reverse_cons, List.append_assoc]
    apply takeWhile_append_stops
    · intro c hc
      have hne : c ≠ '\n' := fun heq => h (heq ▸ List.mem_reverse.1 hc)
      simpa using hne
    · simp
  rw [depth, hline, List.reverse_reverse]

theorem mapLines_last_line (f : Text → Text) (s : Text) (h : '\n' ∉ u) :
    mapLines f (s ++ '\n' :: u) = mapLines f s ++ '\n' :: f u := by
  have hlines := lines_append_of_notMem h []
  rw [List.append_nil] at hlines
  rw [mapLines_append_break, mapLines_break, hlines]
  simp [lines, pieces]

theorem dedentLine_suffix (base line : Text) : dedentLine base line <:+ line := by
  unfold dedentLine
  split
  · exact List.drop_suffix _ _
  · exact List.dropWhile_suffix _

/-- A line behind a base of spaces has at least these spaces more than it had. -/
theorem takeWhile_dedentLine_lt (hunit : ∀ c ∈ u, c = ' ') (hne : u ≠ []) (hbase : ∀ c ∈ base, c = ' ') (t : Text) :
    (t.takeWhile (· == ' ')).length < ((base ++ (u ++ dedentLine base t)).takeWhile (· == ' ')).length := by
  have hlength := List.length_pos_iff.2 hne
  rw [List.takeWhile_append_of_pos (by simpa using hbase), List.takeWhile_append_of_pos (by simpa using hunit),
    List.length_append, List.length_append]
  unfold dedentLine
  split
  · rename_i hstarts
    obtain ⟨behind, rfl⟩ := startsWith_iff.1 hstarts
    rw [List.takeWhile_append_of_pos (by simpa using hbase), List.drop_left, List.length_append]
    omega
  · rename_i hstarts
    -- With that many spaces the line would start with the base.
    have hshort : (t.takeWhile (· == ' ')).length < base.length := by
      by_contra hlong
      apply hstarts
      rw [startsWith_iff, List.eq_replicate_of_mem hbase]
      have hspaces : ∀ c ∈ t.takeWhile (· == ' '), c = ' ' := fun c hc => by simpa using List.mem_takeWhile_imp hc
      refine List.IsPrefix.trans ?_ (List.takeWhile_prefix (· == ' '))
      rw [List.eq_replicate_of_mem hspaces, ← Nat.add_sub_of_le (Nat.not_lt.1 hlong), ← List.replicate_append_replicate]
      exact List.prefix_append _ _
    omega

theorem depth_lt_deepen (hunit : ∀ c ∈ u, c = ' ') (hne : u ≠ []) (hbase : ∀ c ∈ base, c = ' ') (hx : Firm x)
    (hbreak : '\n' ∈ x) : depth x < depth (deepen u base x) := by
  obtain ⟨s, line, rfl, hline⟩ := exists_last_line hbreak
  have hspaces {t : Text} (ht : ∀ c ∈ t, c = ' ') : '\n' ∉ t := fun hmem => absurd (ht _ hmem) (by decide)
  have hdedent : '\n' ∉ dedentLine base line := fun hmem => hline ((dedentLine_suffix base line).subset hmem)
  have hindent : '\n' ∉ u ++ dedentLine base line := by
    simpa [List.mem_append] using ⟨hspaces hunit, hdedent⟩
  have hfull : dedentLine base line ≠ [] := by
    have hblank : base.isAllBlank = true := List.all_eq_true.2 fun c hc => by rw [hbase c hc]; decide
    obtain ⟨front, c, rfl, hc⟩ := hx.last_line
    obtain ⟨front', hsteady⟩ := steady_dedentLine hblank front
    rw [hsteady c [] hc]
    simp
  have heq : deepen u base (s ++ '\n' :: line) =
      indent base (indent u (dedent base s)) ++ '\n' :: (base ++ (u ++ dedentLine base line)) := by
    rw [deepen, dedent_eq_mapLines, indent_eq_mapLines, indent_eq_mapLines, mapLines_last_line _ _ hline,
      mapLines_last_line _ _ hdedent, indentLine, if_neg (by simpa using hfull), mapLines_last_line _ _ hindent,
      indentLine, if_neg (by simp [hfull])]
  rw [heq, depth_append_break _ hline, depth_append_break]
  · exact takeWhile_dedentLine_lt hunit hne hbase line
  · simpa [List.mem_append] using ⟨hspaces hbase, hspaces hunit, hdedent⟩

end ViewCompiler.Text
