import ViewCompiler.Text.Quoted

/-!
# Reading a quoted text

Quoting a text amounts to five replacements, one after the other. Only the first of them replaces a backslash, so none
touches what an earlier one has written, and together they write each character by itself (`replaced_eq`). What is
written for a character is either an escape of it or the character, which then needs none (`quoteChar_cases`). So the
text can be read back from left to right.
-/

namespace ViewCompiler.Text

variable {t : Text}

/-- What is replaced in a quoted text, in this order. -/
def replacements : List (Text × Text) :=
  [("\\".toList, "\\\\".toList), ("\n".toList, "\\n".toList), ("'".toList, "\\'".toList), ("\"".toList, "\\\"".toList),
    ("`".toList, "\\`".toList)]

/-- A text after all replacements. -/
def replaced (t : Text) : Text := replacements.foldl (fun t r => replaceAll r.1 r.2 t) t

/-- The characters that make an escape with a backslash in front of them, and what it stands for. -/
def escapes : List (Char × Char) := [('\\', '\\'), ('n', '\n'), ('\'', '\''), ('"', '"'), ('`', '`')]

/-- What a text stands for when its escapes are read from left to right. Every other character stands for itself. -/
def unescape : Text → Text
  | '\\' :: c :: rest =>
      match escapes.lookup c with
      | some meant => meant :: unescape rest
      | none => '\\' :: unescape (c :: rest)
  | c :: rest => c :: unescape rest
  | [] => []

/-- A character that stands for itself within a literal. -/
def isBare (c : Char) : Bool := c != '\\' && c != '\n' && c != '\'' && c != '"' && c != '`'

/-- A text made up of escapes and of characters that need none. -/
inductive Escaped : Text → Prop where
  | nil : Escaped []
  | escape {c meant : Char} {rest : Text} (hc : escapes.lookup c = some meant) (hrest : Escaped rest) :
      Escaped ('\\' :: c :: rest)
  | bare {c : Char} {rest : Text} (hc : isBare c = true) (hrest : Escaped rest) : Escaped (c :: rest)

/-! ### One character at a time -/

theorem quoteChar_cases (c : Char) :
    (∃ d, quoteChar c = ['\\', d] ∧ escapes.lookup d = some c) ∨ quoteChar c = [c] ∧ isBare c = true := by
  by_cases hescaped : c = '\\' ∨ c = '\n' ∨ c = '\'' ∨ c = '"' ∨ c = '`'
  · left
    rcases hescaped with rfl | rfl | rfl | rfl | rfl <;> exact ⟨_, rfl, rfl⟩
  · right
    simp only [not_or] at hescaped
    simp [quoteChar, isBare, hescaped]

/-- Only two backslashes stand for a backslash. -/
theorem lookup_escapes_backslash {c d : Char} (h : escapes.lookup d = some c) : d = '\\' ↔ c = '\\' := by
  constructor
  · rintro rfl
    exact (Option.some.inj h).symm
  · rintro rfl
    obtain ⟨before, after, hsplit, -⟩ := List.lookup_eq_some_iff.1 h
    have hmem : (d, '\\') ∈ escapes := hsplit ▸ List.mem_append_right before List.mem_cons_self
    simpa [escapes] using hmem

theorem replaceAll_singleton (c : Char) (r t : Text) :
    replaceAll [c] r t = t.flatMap fun d => if d = c then r else [d] := by
  induction t with
  | nil => rw [replaceAll, List.flatMap_nil]
  | cons d t ih =>
      have hstarts : startsWith (d :: t) [c] = true ↔ d = c := by
        rw [startsWith, List.isPrefixOf, List.isPrefixOf, Bool.and_true, beq_iff_eq, eq_comm]
      rw [replaceAll, List.flatMap_cons]
      by_cases hd : d = c
      · rw [if_pos ⟨List.cons_ne_nil _ _, hstarts.2 hd⟩, if_pos hd, ← ih]
        rfl
      · rw [if_neg fun h => hd (hstarts.1 h.2), if_neg hd, ← ih]
        rfl

/-- The replacements do to a text what they do to each of its characters. -/
theorem replaced_eq (t : Text) : replaced t = t.flatMap quoteChar := by
  have hchar (c : Char) : replaced [c] = quoteChar c := by
    by_cases hescaped : c = '\\' ∨ c = '\n' ∨ c = '\'' ∨ c = '"' ∨ c = '`'
    · rcases hescaped with rfl | rfl | rfl | rfl | rfl <;> simp [replaced, replacements, replaceAll_singleton, quoteChar]
    · simp only [not_or] at hescaped
      simp [replaced, replacements, replaceAll_singleton, quoteChar, hescaped]
  have hmap : replaced t = t.flatMap fun c => replaced [c] := by
    simp [replaced, replacements, replaceAll_singleton, List.flatMap_assoc]
  rw [hmap]
  exact congrArg t.flatMap (funext hchar)

/-! ### Reading -/

theorem unescape_quoteChar_append (c : Char) (t : Text) : unescape (quoteChar c ++ t) = c :: unescape t := by
  rcases quoteChar_cases c with ⟨d, hwritten, hescape⟩ | ⟨hwritten, hbare⟩
  · rw [hwritten, List.cons_append, List.singleton_append, unescape, hescape]
  · have hbackslash : c ≠ '\\' := by
      rintro rfl
      cases hbare
    rw [hwritten, List.singleton_append, unescape]
    exact fun _ _ heq _ => hbackslash heq

theorem unescape_replaced (t : Text) : unescape (replaced t) = t := by
  rw [replaced_eq]
  induction t with
  | nil => rfl
  | cons c t ih => rw [List.flatMap_cons, unescape_quoteChar_append, ih]

theorem escaped_replaced (t : Text) : Escaped (replaced t) := by
  rw [replaced_eq]
  induction t with
  | nil => exact .nil
  | cons c t ih =>
      rw [List.flatMap_cons]
      rcases quoteChar_cases c with ⟨d, hwritten, hescape⟩ | ⟨hwritten, hbare⟩
      · rw [hwritten]
        exact .escape hescape ih
      · rw [hwritten]
        exact .bare hbare ih

theorem Escaped.newline_notMem (h : Escaped t) : '\n' ∉ t := by
  induction h with
  | nil => exact List.not_mem_nil
  | @escape c meant rest hc _ ih =>
      have hne : '\n' ≠ c := by
        rintro rfl
        cases hc
      rw [List.mem_cons, List.mem_cons, not_or, not_or]
      exact ⟨by decide, hne, ih⟩
  | @bare c rest hc _ ih =>
      have hne : '\n' ≠ c := by
        rintro rfl
        cases hc
      rw [List.mem_cons, not_or]
      exact ⟨hne, ih⟩

/-- A literal is a text between two single quotes in which every quote mark and every backslash belongs to an escape
and no line ends, and it is read as the text that was quoted. So no two texts have one literal. -/
theorem quote_decodable :
    (∀ t, quote t = '\'' :: (replaced t ++ ['\'']) ∧ Escaped (replaced t) ∧ '\n' ∉ replaced t ∧
      unescape (replaced t) = t) ∧ Function.Injective quote := by
  have hquote (t : Text) : quote t = '\'' :: (replaced t ++ ['\'']) := by rw [replaced_eq, quote]
  refine ⟨fun t => ⟨hquote t, escaped_replaced t, (escaped_replaced t).newline_notMem, unescape_replaced t⟩, ?_⟩
  intro s t heq
  rw [hquote, hquote, List.cons.injEq, List.append_left_inj] at heq
  rw [← unescape_replaced s, heq.2, unescape_replaced t]

example : quote "\\\n'n\\n" = "'\\\\\\n\\'n\\\\n'".toList ∧ unescape "\\\\\\n\\'n\\\\n" = "\\\n'n\\n".toList := by decide

end ViewCompiler.Text
