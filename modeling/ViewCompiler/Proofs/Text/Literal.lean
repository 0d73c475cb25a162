import ViewCompiler.Text.Integer
import ViewCompiler.Text.Quoted

/-!
# String literals of a script

What a script reads between single quotes, by the rules of ECMAScript: a value in units of UTF-16, in which escapes
stand for units of their own. `literal?` is that reader. Every escape is longer than what it stands for, so a text
between quotes is read as itself only if nothing in it is an escape (`literal?_enclosed_iff`). What `quote` writes is
read as the text that was quoted, unless a carriage return is in it (`literal?_quote_iff`).
-/

namespace ViewCompiler.Text

variable {t rest written : Text} {units : List Nat} {c : Char}

/-! ### Values -/

/-- The units of a code point. -/
def unitsOf (code : Nat) : List Nat :=
  if code < 0x10000 then [code] else [0xD800 + (code - 0x10000) / 0x400, 0xDC00 + (code - 0x10000) % 0x400]

/-- The value of a text. -/
def utf16 (t : Text) : List Nat := t.flatMap fun c => unitsOf c.toNat

/-! ### Escapes -/

def isHexDigit (c : Char) : Bool := (digitValue? 16 c).isSome

/-- The unit that exactly `count` digits denote. -/
def fixedUnit? (count : Nat) (t : Text) : Option (List Nat × Text) :=
  let digits := t.take count
  if digits.length = count && digits.all isHexDigit then some ([numeral 16 digits], t.drop count) else none

/-- The code point that the digits up to a closing brace denote. -/
def bracedUnits? (t : Text) : Option (List Nat × Text) :=
  let digits : Text := t.takeWhile isHexDigit
  match t.dropWhile isHexDigit with
  | '\x7d' :: rest =>
      if digits.isEmpty || 0x10FFFF < numeral 16 digits then none else some (unitsOf (numeral 16 digits), rest)
  | _ => none

/-- The letters that stand for control characters. -/
def controlUnits : List (Char × Nat) := [('b', 8), ('t', 9), ('n', 10), ('v', 11), ('f', 12), ('r', 13)]

def isLineEnd (c : Char) : Bool := c == '\n' || c == '\r' || c == '\u2028' || c == '\u2029'

/-- What a character after a backslash stands for. A line end stands for nothing, and no digit is an escape but a zero
that no digit follows. -/
def singleUnits? (c : Char) (next : Option Char) : Option (List Nat) :=
  if isLineEnd c then some []
  else if c.isDigit then if c = '0' && !next.any Char.isDigit then some [0] else none
  else
    match controlUnits.lookup c with
    | some unit => some [unit]
    | none => some (unitsOf c.toNat)

/-- What the digits of a code point stand for. -/
def codeUnits? : Text → Option (List Nat × Text)
  | '\x7b' :: digits => bracedUnits? digits
  | digits => fixedUnit? 4 digits

/-- What an escape stands for, from what comes after its backslash, and the rest. -/
def escape? : Text → Option (List Nat × Text)
  | [] => none
  | 'x' :: digits => fixedUnit? 2 digits
  | 'u' :: digits => codeUnits? digits
  | '\r' :: '\n' :: rest => some ([], rest)
  | c :: rest => (singleUnits? c rest.head?).map (·, rest)

/-! ### What an escape takes -/

@[simp] theorem utf16_nil : utf16 [] = [] := rfl

@[simp] theorem utf16_cons (c : Char) (t : Text) : utf16 (c :: t) = unitsOf c.toNat ++ utf16 t := rfl

@[simp] theorem utf16_append (s t : Text) : utf16 (s ++ t) = utf16 s ++ utf16 t := List.flatMap_append

theorem length_unitsOf (code : Nat) : 0 < (unitsOf code).length ∧ (unitsOf code).length ≤ 2 := by
  unfold unitsOf
  split <;> simp

theorem length_le_utf16 (t : Text) : t.length ≤ t.utf16.length := by
  induction t with
  | nil => exact Nat.le_refl _
  | cons c t ih =>
      have hpos := (length_unitsOf c.toNat).1
      simp only [List.length_cons, utf16_cons, List.length_append]
      omega

/-- A part at the front of a text that is at least as long as what it stands for. -/
def Covers (t : Text) (units : List Nat) (rest : Text) : Prop :=
  ∃ taken, t = taken ++ rest ∧ units.length ≤ taken.utf16.length

theorem Covers.cons (h : Covers t units rest) (c : Char) : Covers (c :: t) units rest := by
  obtain ⟨taken, rfl, hlength⟩ := h
  refine ⟨c :: taken, rfl, ?_⟩
  rw [utf16_cons, List.length_append]
  exact Nat.le_add_left_of_le hlength

theorem covers_of_fixedUnit? {count : Nat} (hcount : 0 < count) (h : fixedUnit? count t = some (units, rest)) :
    Covers t units rest := by
  simp only [fixedUnit?] at h
  split at h
  · rename_i hdigits
    cases h
    rw [Bool.and_eq_true, decide_eq_true_eq] at hdigits
    have hlength := length_le_utf16 (t.take count)
    refine ⟨t.take count, (List.take_append_drop count t).symm, ?_⟩
    rw [List.length_singleton]
    omega
  · cases h

theorem covers_of_bracedUnits? (h : bracedUnits? t = some (units, rest)) : Covers t units rest := by
  simp only [bracedUnits?] at h
  split at h
  · rename_i after hdrop
    split at h
    · cases h
    · rename_i hdigits
      cases h
      have hempty : t.takeWhile isHexDigit ≠ [] := fun hnil => hdigits (by simp [hnil])
      refine ⟨t.takeWhile isHexDigit ++ ['\x7d'], ?_, ?_⟩
      · rw [List.append_assoc, List.singleton_append, ← hdrop, List.takeWhile_append_dropWhile]
      · -- A digit and the brace make room for the two units that a code point has at most.
        have hpos := List.length_pos_iff.2 hempty
        have hlength := length_le_utf16 (t.takeWhile isHexDigit ++ ['\x7d'])
        have hunits := (length_unitsOf (numeral 16 (t.takeWhile isHexDigit))).2
        rw [List.length_append, List.length_singleton] at hlength
        omega
  · cases h

theorem length_of_singleUnits? {next : Option Char} (h : singleUnits? c next = some units) :
    units.length ≤ (unitsOf c.toNat).length := by
  have hpos := (length_unitsOf c.toNat).1
  unfold singleUnits? at h
  split at h
  · cases h
    exact Nat.zero_le _
  split at h
  · split at h
    · cases h
      exact hpos
    · cases h
  split at h
  · cases h
    exact hpos
  · cases h
    exact Nat.le_refl _

theorem covers_of_codeUnits? (h : codeUnits? t = some (units, rest)) : Covers t units rest := by
  unfold codeUnits? at h
  split at h
  · exact (covers_of_bracedUnits? h).cons _
  · exact covers_of_fixedUnit? (by decide) h

theorem covers_of_escape? (h : escape? t = some (units, rest)) : Covers t units rest := by
  unfold escape? at h
  split at h
  · cases h
  · exact (covers_of_fixedUnit? (by decide) h).cons _
  · exact (covers_of_codeUnits? h).cons _
  · cases h
    exact ⟨['\r', '\n'], rfl, Nat.zero_le _⟩
  · rename_i c after _ _ _
    obtain ⟨found, hfound, hpair⟩ := Option.map_eq_some_iff.1 h
    cases hpair
    refine ⟨[c], rfl, ?_⟩
    rw [utf16_cons, utf16_nil, List.append_nil]
    exact length_of_singleUnits? hfound

theorem length_of_escape? (h : escape? t = some (units, rest)) : rest.length ≤ t.length := by
  obtain ⟨taken, rfl, -⟩ := covers_of_escape? h
  rw [List.length_append]
  exact Nat.le_add_left _ _

/-! ### Literals -/

/-- Puts units in front of a value. -/
def prepend (units : List Nat) (read : List Nat × Text) : List Nat × Text := (units ++ read.1, read.2)

/-- The value of a literal from what comes after its opening quote, and what comes after its closing one. -/
def literalBody? : Text → Option (List Nat × Text)
  | [] => none
  | c :: rest =>
      if c = '\'' then some ([], rest)
      else if c = '\n' || c = '\r' then none
      else if c = '\\' then
        match hescape : escape? rest with
        | some (units, after) =>
            have := length_of_escape? hescape
            (literalBody? after).map (prepend units)
        | none => none
      else (literalBody? rest).map (prepend (unitsOf c.toNat))
  termination_by t => t.length
  decreasing_by all_goals simp only [List.length_cons]; omega

/-- The value of the literal that a text starts with, and the rest. -/
def literal? : Text → Option (List Nat × Text)
  | '\'' :: rest => literalBody? rest
  | _ => none

/-- A part of a literal that is always read as the same units. -/
def ReadAs (written : Text) (units : List Nat) : Prop :=
  ∀ rest, literalBody? (written ++ rest) = (literalBody? rest).map (prepend units)

theorem literalBody?_quote (rest : Text) : literalBody? ('\'' :: rest) = some ([], rest) := by
  rw [literalBody?, if_pos rfl]

theorem prepend_nil : prepend [] = id := rfl

theorem prepend_comp (units units' : List Nat) : prepend units ∘ prepend units' = prepend (units ++ units') := by
  funext read
  simp [prepend]

theorem readAs_nil : ReadAs [] [] := by
  intro rest
  rw [prepend_nil, Option.map_id]
  rfl

theorem ReadAs.append {written' : Text} {units' : List Nat} (h : ReadAs written units) (h' : ReadAs written' units') :
    ReadAs (written ++ written') (units ++ units') := by
  intro rest
  rw [List.append_assoc, h, h', Option.map_map, prepend_comp]

/-- Characters that are read as their own units make up a text that is read as itself. -/
theorem readAs_flatMap {write : Char → Text} (h : ∀ c ∈ t, ReadAs (write c) (unitsOf c.toNat)) :
    ReadAs (t.flatMap write) t.utf16 := by
  induction t with
  | nil => exact readAs_nil
  | cons c t ih =>
      rw [List.forall_mem_cons] at h
      exact h.1.append (ih h.2)

theorem ReadAs.literal?_eq (h : ReadAs written units) (rest : Text) :
    literal? ('\'' :: (written ++ '\'' :: rest)) = some (units, rest) := by
  rw [literal?, h, literalBody?_quote]
  simp [prepend]

/-- A character that opens no escape, closes no literal and ends no line. -/
def isPlain (c : Char) : Bool := c != '\'' && c != '\\' && c != '\n' && c != '\r'

theorem readAs_plain (h : isPlain c = true) : ReadAs [c] (unitsOf c.toNat) := by
  intro rest
  simp only [isPlain, Bool.and_eq_true, bne_iff_ne] at h
  simp [literalBody?, h]

theorem literalBody?_escape (h : escape? t = some (units, rest)) :
    literalBody? ('\\' :: t) = (literalBody? rest).map (prepend units) := by
  rw [literalBody?, if_neg (by decide), if_neg (by decide), if_pos rfl]
  split
  · rename_i hescape
    rw [h] at hescape
    cases hescape
    rfl
  · rename_i hescape
    rw [h] at hescape
    cases hescape

theorem readAs_quoteChar (h : c ≠ '\r') : ReadAs (quoteChar c) (unitsOf c.toNat) := by
  by_cases hescaped : c = '\\' ∨ c = '\n' ∨ c = '\'' ∨ c = '"' ∨ c = '`'
  · rcases hescaped with rfl | rfl | rfl | rfl | rfl <;> exact fun rest => literalBody?_escape rfl
  · simp only [not_or] at hescaped
    have hwritten : quoteChar c = [c] := by simp [quoteChar, hescaped]
    rw [hwritten]
    exact readAs_plain (by simp [isPlain, hescaped, h])

/-! ### What a literal can be read as -/

/-- What is read up to a closing quote is its own value, or else it is longer than its value. -/
theorem body_of_literalBody? (h : literalBody? t = some (units, rest)) :
    ∃ body, t = body ++ '\'' :: rest ∧
      ((∀ c ∈ body, isPlain c = true) ∧ units = utf16 body ∨ units.length < (utf16 body).length) := by
  fun_induction literalBody? t generalizing units rest with
  | case1 => cases h
  | case2 =>
      cases h
      exact ⟨[], rfl, Or.inl ⟨nofun, rfl⟩⟩
  | case3 => cases h
  | case4 after escaped beyond hescape _ _ _ ih =>
      obtain ⟨⟨later, _⟩, hlater, hpair⟩ := Option.map_eq_some_iff.1 h
      cases hpair
      obtain ⟨taken, rfl, htaken⟩ := covers_of_escape? hescape
      obtain ⟨body, rfl, hbody⟩ := ih hlater
      refine ⟨'\\' :: taken ++ body, by simp, Or.inr ?_⟩
      -- The backslash stands for nothing by itself.
      have hpos := (length_unitsOf '\\'.toNat).1
      have hlength : later.length ≤ (utf16 body).length := by
        rcases hbody with ⟨-, rfl⟩ | hlt
        · exact Nat.le_refl _
        · exact Nat.le_of_lt hlt
      simp only [List.cons_append, utf16_cons, utf16_append, List.length_append]
      omega
  | case5 => cases h
  | case6 c later hquote hline hbackslash ih =>
      obtain ⟨⟨value, _⟩, hvalue, hpair⟩ := Option.map_eq_some_iff.1 h
      cases hpair
      obtain ⟨body, rfl, hbody⟩ := ih hvalue
      have hne : c ≠ '\n' ∧ c ≠ '\r' := by simpa using hline
      refine ⟨c :: body, rfl, hbody.imp (fun hplain => ?_) fun hlength => ?_⟩
      · have hc : isPlain c = true := by simp [isPlain, hquote, hbackslash, hne]
        exact ⟨List.forall_mem_cons.2 ⟨hc, hplain.1⟩, by rw [hplain.2, utf16_cons]⟩
      · rw [utf16_cons, List.length_append, List.length_append]
        exact Nat.add_lt_add_left hlength _

/-- A text between quotes is read as itself exactly if no quote, no backslash and no line end is in it. -/
theorem literal?_enclosed_iff (t rest : Text) :
    literal? ('\'' :: (t ++ '\'' :: rest)) = some (t.utf16, rest) ↔ ∀ c ∈ t, isPlain c = true := by
  constructor
  · intro h
    obtain ⟨body, hbody, hplain⟩ := body_of_literalBody? h
    obtain rfl := List.append_cancel_right hbody
    exact (hplain.resolve_right (Nat.lt_irrefl _)).1
  · intro h
    have hread := readAs_flatMap fun c hc => readAs_plain (h c hc)
    rw [List.flatMap_singleton'] at hread
    exact hread.literal?_eq rest

theorem literalBody?_carriageReturn (rest : Text) : literalBody? ('\r' :: rest) = none := by
  rw [literalBody?, if_neg (by decide), if_pos (by decide)]

/-- A quoted text is read as the text exactly if no carriage return is in it. -/
theorem literal?_quote_iff (t rest : Text) : literal? (t.quote ++ rest) = some (t.utf16, rest) ↔ '\r' ∉ t := by
  have htext : t.quote ++ rest = '\'' :: (t.flatMap quoteChar ++ '\'' :: rest) := by simp [quote]
  rw [htext]
  constructor
  · intro h hmem
    -- What stands before the first carriage return is read, and nothing is read from there.
    obtain ⟨before, beyond, rfl, hbefore⟩ := List.eq_append_cons_of_mem hmem
    have hread : ReadAs (before.flatMap quoteChar) (utf16 before) :=
      readAs_flatMap fun c hc => readAs_quoteChar fun heq => hbefore (heq ▸ hc)
    have hreturn : quoteChar '\r' = ['\r'] := by decide
    rw [List.flatMap_append, List.flatMap_cons, hreturn, List.append_assoc, literal?, hread, List.append_assoc,
      List.singleton_append, literalBody?_carriageReturn] at h
    cases h
  · intro h
    exact (readAs_flatMap fun c hc => readAs_quoteChar fun heq => h (heq ▸ hc)).literal?_eq rest

end ViewCompiler.Text
