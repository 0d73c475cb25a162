import ViewCompiler.Markup.Node
import ViewCompiler.Text.Blank

/-!
# Tags

The spelling of a start tag: a name, attributes with or without a value, and the end `>` or `/>`. A
slash anywhere else between the attributes is passed over.
-/

namespace ViewCompiler.Markup

/-! ### Names -/

def isNameChar (c : Char) : Bool := !Text.isBlank c && c != '/' && c != '>'

/-- The name that a text starts with, and what comes after it. A name starts with a letter. -/
def name? : Text → Option (Text × Text)
  | c :: rest => if c.isAlpha then some (c :: rest.takeWhile isNameChar, rest.dropWhile isNameChar) else none
  | [] => none

/-- The name that stands for every tag whose own name is not plain. -/
def placeholderName : Text := "wane-element"

/-- Whether a name is plain: words of letters and digits with single dashes between them, the first
starting with a letter. A line feed may follow. -/
def isPlainName (name : Text) : Bool :=
  let (first, others) := Text.pieces '-' (if name.getLast? = some '\n' then name.dropLast else name)
  first.head?.any Char.isAlpha && (first :: others).all fun word => !word.isEmpty && word.all Char.isAlphanum

/-- The name under which a tag is read as markup. -/
def plainName (name : Text) : Text := if isPlainName name then name.lower else placeholderName

/-- The elements that have no content and no end tag. -/
def contentless : List Text :=
  ["area".toList, "base".toList, "br".toList, "col".toList, "embed".toList, "hr".toList, "img".toList,
   "input".toList, "link".toList, "meta".toList, "param".toList, "source".toList, "track".toList, "wbr".toList]

/-- The elements whose content is not markup. -/
def unreadElements : List Text := ["script".toList, "style".toList]

/-! ### Attributes -/

def isKeyChar (c : Char) : Bool :=
  !Text.isBlank c && c != '=' && c != '>' && c != '/' && c != '"' && c != '\''

def isBareChar (c : Char) : Bool := !Text.isBlank c && c != '>' && c != '"' && c != '\''

/-- A value up to a closing mark, and what comes after the mark. -/
def quotedValue? (mark : Char) (t : Text) : Option (Text × Text) :=
  match t.dropWhile (· != mark) with
  | [] => none
  | _ :: rest => some (t.takeWhile (· != mark), rest)

/-- A value in quotes of either kind, or a bare one, and what comes after it. -/
def value? : Text → Option (Text × Text)
  | '"' :: rest => quotedValue? '"' rest
  | '\'' :: rest => quotedValue? '\'' rest
  | t => if (t.takeWhile isBareChar).isEmpty then none else some (t.takeWhile isBareChar, t.dropWhile isBareChar)

/-- The value after an equals sign, which blanks may surround. -/
def assigned? (t : Text) : Option (Text × Text) :=
  match t.dropWhile Text.isBlank with
  | '=' :: rest => value? (rest.dropWhile Text.isBlank)
  | _ => none

/-- The attribute that a text starts with, and what comes after it. A key that no value can be read for
stands alone. -/
def attribute? (t : Text) : Option (Attribute × Text) :=
  let key := t.takeWhile isKeyChar
  let rest := t.dropWhile isKeyChar
  if key.isEmpty then none
  else
    match assigned? rest with
    | some (value, after) => some (⟨key, some value⟩, after)
    | none => some (⟨key, none⟩, rest)

theorem length_of_quotedValue? {mark : Char} {t value rest : Text} (h : quotedValue? mark t = some (value, rest)) :
    rest.length ≤ t.length := by
  unfold quotedValue? at h
  split at h
  · simp at h
  next c after hdrop =>
    simp only [Option.some.injEq, Prod.mk.injEq] at h
    obtain ⟨-, rfl⟩ := h
    have hle := (List.dropWhile_suffix (l := t) (· != mark)).length_le
    rw [hdrop, List.length_cons] at hle
    omega

theorem length_of_value? {t value rest : Text} (h : value? t = some (value, rest)) : rest.length ≤ t.length := by
  unfold value? at h
  split at h
  · have := length_of_quotedValue? h
    simp only [List.length_cons]
    omega
  · have := length_of_quotedValue? h
    simp only [List.length_cons]
    omega
  · split at h
    · simp at h
    · simp only [Option.some.injEq, Prod.mk.injEq] at h
      obtain ⟨-, rfl⟩ := h
      exact (List.dropWhile_suffix _).length_le

theorem length_of_assigned? {t value rest : Text} (h : assigned? t = some (value, rest)) :
    rest.length ≤ t.length := by
  unfold assigned? at h
  split at h
  next after hdrop =>
    have hvalue := length_of_value? h
    have hblank := (List.dropWhile_suffix (l := t) Text.isBlank).length_le
    have hblank' := (List.dropWhile_suffix (l := after) Text.isBlank).length_le
    rw [hdrop, List.length_cons] at hblank
    omega
  · simp at h

theorem length_of_attribute? {t rest : Text} {a : Attribute} (h : attribute? t = some (a, rest)) :
    rest.length < t.length := by
  have hsplit := congrArg List.length (List.takeWhile_append_dropWhile (p := isKeyChar) (l := t))
  rw [List.length_append] at hsplit
  simp only [attribute?] at h
  split at h
  · simp at h
  next hkey =>
    have hpos : 0 < (t.takeWhile isKeyChar).length := by
      rw [List.length_pos_iff]
      simpa using hkey
    split at h
    next hassigned =>
      simp only [Option.some.injEq, Prod.mk.injEq] at h
      obtain ⟨-, rfl⟩ := h
      have := length_of_assigned? hassigned
      omega
    next =>
      simp only [Option.some.injEq, Prod.mk.injEq] at h
      obtain ⟨-, rfl⟩ := h
      omega

/-! ### Start tags -/

/-- Why a start tag cannot be read. A malformed attribute is told by how many characters are left from it on. -/
inductive TagFault where
  | unclosed
  | malformed (remaining : Nat)
  deriving DecidableEq, Repr

/-- What comes after the name of a start tag. -/
structure TagBody where
  attributes : List Attribute
  selfClosing : Bool
  rest : Text
  deriving DecidableEq, Repr

/-- Reads the attributes and the end of a start tag. -/
def tagBody (t : Text) : Except TagFault TagBody :=
  match hblank : t.dropWhile Text.isBlank with
  | [] => .error .unclosed
  | '/' :: '>' :: rest => .ok ⟨[], true, rest⟩
  | '>' :: rest => .ok ⟨[], false, rest⟩
  | '/' :: rest =>
      have := (List.dropWhile_suffix (l := t) Text.isBlank).length_le
      have := congrArg List.length hblank
      tagBody rest
  | c :: rest =>
      match hattr : attribute? (c :: rest) with
      | none => .error (.malformed (c :: rest).length)
      | some (a, after) =>
          have := (List.dropWhile_suffix (l := t) Text.isBlank).length_le
          have := congrArg List.length hblank
          have := length_of_attribute? hattr
          do
            let body ← tagBody after
            return { body with attributes := a :: body.attributes }
  termination_by t.length
  decreasing_by all_goals simp_all only [List.length_cons]; omega

end ViewCompiler.Markup
