import ViewCompiler.Proofs.Markup.Segment
import ViewCompiler.Proofs.Text.Position

/-!
# Start tags as they are written

A start tag is written with a space in front of each attribute and every value between double quotes. Reading it gives
back the name and the attributes, whatever the values hold besides the double quote (`tagBody_behind`): brackets,
slashes, comments and line feeds within a value never end the tag, and a key without a value never takes the attribute
after it for one (`assigned?_behind_key`).
-/

namespace ViewCompiler.Markup

open Text (Stops)

/-- An attribute that can be written down. -/
structure Attribute.Writable (a : Attribute) : Prop where
  key_ne_nil : a.key ≠ []
  key_chars : ∀ c ∈ a.key, Text.isBlank c = false ∧ c ∉ "=>/\"'".toList
  value_chars : ∀ value ∈ a.value, '"' ∉ value

instance (a : Attribute) : Decidable a.Writable :=
  decidable_of_iff (a.key ≠ [] ∧ (a.key.all fun c => !Text.isBlank c && !"=>/\"'".toList.contains c) = true ∧
      (a.value.all fun value => value.all ('"' != ·)) = true) <| by
    have hvalues : (a.value.all fun value => value.all ('"' != ·)) = true ↔ ∀ value ∈ a.value, '"' ∉ value := by
      cases a.value <;> simp [List.forall_mem_ne]
    rw [hvalues]
    constructor
    · rintro ⟨hkey, hchars, hvalue⟩
      exact ⟨hkey, by simpa using hchars, hvalue⟩
    · rintro ⟨hkey, hchars, hvalue⟩
      exact ⟨hkey, by simpa using hchars, hvalue⟩

/-- An attribute and the space in front of it. -/
def Attribute.written (a : Attribute) : Text :=
  match a.value with
  | some value => " " ++ a.key ++ "=\"" ++ value ++ "\""
  | none => " " ++ a.key

/-- The end of a start tag. -/
def writtenEnd (selfClosing : Bool) : Text := if selfClosing then " />" else ">"

def writtenTag (name : Text) (attributes : List Attribute) (selfClosing : Bool) : Text :=
  "<" ++ name ++ attributes.flatMap Attribute.written ++ writtenEnd selfClosing

variable {name rest : Text} {a : Attribute} {attributes : List Attribute}

theorem Attribute.Writable.isKeyChar (h : a.Writable) : ∀ c ∈ a.key, isKeyChar c = true := by
  intro c hc
  obtain ⟨hblank, hmark⟩ := h.key_chars c hc
  simp only [String.reduceToList, List.mem_cons, List.not_mem_nil, or_false, not_or] at hmark
  simp [Markup.isKeyChar, hblank, hmark]

/-! ### Between two attributes -/

/-- What stands behind an attribute: further attributes, the end of the tag and any text. -/
def behind (attributes : List Attribute) (selfClosing : Bool) (rest : Text) : Text :=
  attributes.flatMap Attribute.written ++ writtenEnd selfClosing ++ rest

theorem behind_cons (selfClosing : Bool) (rest : Text) :
    behind (a :: attributes) selfClosing rest = a.written ++ behind attributes selfClosing rest := by
  simp [behind]

theorem stops_behind (attributes : List Attribute) (selfClosing : Bool) (rest : Text) {p : Char → Bool}
    (hspace : p ' ' = false) (hbracket : p '>' = false) : Stops p (behind attributes selfClosing rest) := by
  cases attributes with
  | nil => cases selfClosing <;> simp [behind, writtenEnd, hspace, hbracket]
  | cons a others =>
      rw [behind_cons, Attribute.written]
      split <;> simp [hspace]

/-- No equals sign stands behind an attribute, not even behind blanks. -/
theorem assigned?_behind_key (h : ∀ a ∈ attributes, a.Writable) (selfClosing : Bool) (rest : Text) :
    assigned? (behind attributes selfClosing rest) = none := by
  cases attributes with
  | nil => cases selfClosing <;> rfl
  | cons a others =>
      have hwritable := h a List.mem_cons_self
      obtain ⟨c, key, hkey⟩ := List.exists_cons_of_ne_nil hwritable.key_ne_nil
      have hc : Text.isBlank c = false ∧ c ∉ "=>/\"'".toList :=
        hwritable.key_chars c (hkey ▸ List.mem_cons_self)
      obtain ⟨more, hwritten⟩ : ∃ more, behind (a :: others) selfClosing rest = ' ' :: c :: more := by
        rw [behind_cons, Attribute.written, hkey]
        split <;> exact ⟨_, rfl⟩
      have hdrop : (' ' :: c :: more).dropWhile Text.isBlank = c :: more := by
        rw [List.dropWhile_cons_of_pos (by decide)]
        exact Text.dropWhile_eq_self (Text.stops_cons.2 hc.1)
      rw [hwritten, assigned?, hdrop]
      split
      · rename_i heq
        cases heq
        exact absurd hc.2 (by decide)
      · rfl

/-! ### Reading what is written -/

theorem attribute?_written (ha : a.Writable) (h : ∀ a ∈ attributes, a.Writable) (selfClosing : Bool) (rest : Text) :
    attribute? ((a.written ++ behind attributes selfClosing rest).dropWhile Text.isBlank) =
      some (a, behind attributes selfClosing rest) := by
  obtain ⟨key, value⟩ := a
  -- The space is passed over, since no key starts with a blank.
  have hdrop : ∀ t : Text, (' ' :: (key ++ t)).dropWhile Text.isBlank = key ++ t := by
    intro t
    obtain ⟨c, others, hkey⟩ := List.exists_cons_of_ne_nil ha.key_ne_nil
    have hc : Text.isBlank c = false := (ha.key_chars c (hkey ▸ List.mem_cons_self)).1
    change key = c :: others at hkey
    rw [List.dropWhile_cons_of_pos (by decide), hkey]
    exact Text.dropWhile_eq_self (Text.stops_cons.2 hc)
  cases value with
  | some value =>
      have htext : Attribute.written ⟨key, some value⟩ ++ behind attributes selfClosing rest =
          ' ' :: (key ++ '=' :: '"' :: (value ++ '"' :: behind attributes selfClosing rest)) := by
        simp [Attribute.written]
      rw [htext, hdrop]
      exact attribute?_quoted ha.key_ne_nil ha.isKeyChar (ha.value_chars value rfl) _
  | none =>
      have htext : Attribute.written ⟨key, none⟩ ++ behind attributes selfClosing rest =
          ' ' :: (key ++ behind attributes selfClosing rest) := by
        simp [Attribute.written]
      have hstops : Stops isKeyChar (behind attributes selfClosing rest) :=
        stops_behind attributes selfClosing rest (by decide) (by decide)
      have hkey : key ≠ [] := ha.key_ne_nil
      rw [htext, hdrop, attribute?, Text.takeWhile_append_stops ha.isKeyChar hstops,
        Text.dropWhile_append_stops ha.isKeyChar hstops, assigned?_behind_key h]
      simp [hkey]

theorem tagBody_slash {t : Text} (h : t.dropWhile Text.isBlank = '/' :: '>' :: rest) :
    tagBody t = .ok ⟨[], true, rest⟩ := by
  rw [tagBody.eq_def]
  split <;> simp_all

theorem tagBody_behind (h : ∀ a ∈ attributes, a.Writable) (selfClosing : Bool) (rest : Text) :
    tagBody (behind attributes selfClosing rest) = .ok ⟨attributes, selfClosing, rest⟩ := by
  induction attributes with
  | nil =>
      cases selfClosing with
      | false => exact tagBody_bracket rfl
      | true => exact tagBody_slash rfl
  | cons a others ih =>
      rw [List.forall_mem_cons] at h
      rw [behind_cons, tagBody_attribute (attribute?_written h.1 h.2 selfClosing rest), ih h.2]
      rfl

theorem isStartTag_writtenTag (hname : IsName name) (h : ∀ a ∈ attributes, a.Writable) (selfClosing : Bool) (rest : Text) :
    IsStartTag (writtenTag name attributes selfClosing) rest name attributes selfClosing := by
  refine ⟨hname, attributes.flatMap Attribute.written ++ writtenEnd selfClosing, by simp [writtenTag], ?_, ?_⟩
  · exact stops_behind attributes selfClosing rest (by decide) (by decide)
  · exact tagBody_behind h selfClosing rest

/-- A start tag that is written down is read as the only tag, at the first position, with its name and its attributes
in their order. -/
theorem number_writtenTag (hname : IsName name) (h : ∀ a ∈ attributes, a.Writable) (selfClosing : Bool) :
    (number (writtenTag name attributes selfClosing)).map Numbered.tags = .ok [⟨name, attributes, ⟨1, 1⟩⟩] := by
  have hcut : Cut none (writtenTag name attributes selfClosing ++ [])
      [.startTag (writtenTag name attributes selfClosing) name attributes selfClosing] :=
    .cons (.startTag (isStartTag_writtenTag hname h selfClosing [])) .nil
  rw [List.append_nil] at hcut
  rw [number_eq_ok_iff.2 ⟨_, hcut, rfl⟩]
  simp [Except.map, startTagsFrom, Text.positionAt_zero]

theorem number_writtenTag_marks :
    IsName "my-Box" ∧
      (∀ a ∈ [⟨"[a]", some "x /> <!-- '=\n>".toList⟩, ⟨"(b)", none⟩, ⟨"<", some []⟩], Attribute.Writable a) ∧
      (number "<my-Box [a]=\"x /> <!-- '=\n>\" (b) <=\"\" />").map Numbered.tags =
        .ok [⟨"my-Box", [⟨"[a]", some "x /> <!-- '=\n>".toList⟩, ⟨"(b)", none⟩, ⟨"<", some []⟩], ⟨1, 1⟩⟩] := by
  have hname : IsName "my-Box" := ⟨'m', "y-Box", rfl, rfl, List.all_eq_true.1 (by decide)⟩
  have hwritable : ∀ a ∈ [⟨"[a]", some "x /> <!-- '=\n>".toList⟩, ⟨"(b)", none⟩, ⟨"<", some []⟩], Attribute.Writable a := by
    decide +kernel
  exact ⟨hname, hwritable, number_writtenTag hname hwritable true⟩

end ViewCompiler.Markup
