import ViewCompiler.Template.Node

/-!
# Interpolations

A text is cut at each pair of double braces around something that is not empty and has no brace in
it. What stands between the pairs stays text.
-/

namespace ViewCompiler.Template

def isBrace (c : Char) : Bool := c == '\x7b' || c == '\x7d'

/-- The expression between the double braces that a text starts with, and what comes after them. -/
def marked? : Text → Option (Text × Text)
  | '\x7b' :: '\x7b' :: rest =>
      let inner : Text := rest.takeWhile (!isBrace ·)
      match inner, rest.drop inner.length with
      | _ :: _, '\x7d' :: '\x7d' :: after => some (inner, after)
      | _, _ => none
  | _ => none

theorem length_of_marked? {t inner after : Text} (h : marked? t = some (inner, after)) : after.length < t.length := by
  unfold marked? at h
  split at h
  next rest =>
    simp only at h
    split at h
    next heq hdrop =>
      have hlen := congrArg List.length hdrop
      simp only [Option.some.injEq, Prod.mk.injEq] at h
      obtain ⟨-, rfl⟩ := h
      simp only [List.length_drop, List.length_cons] at hlen ⊢
      omega
    next => simp at h
  next => simp at h

/-- The text before the first expression, and each expression with the text after it. -/
def interpolationPieces : Text → Text × List (Text × Text)
  | [] => ([], [])
  | c :: rest =>
      match hmark : marked? (c :: rest) with
      | some (inner, after) =>
          have := length_of_marked? hmark
          let (first, others) := interpolationPieces after
          ([], (inner, first) :: others)
      | none =>
          let (first, others) := interpolationPieces rest
          (c :: first, others)
  termination_by t => t.length
  decreasing_by all_goals simp only [List.length_cons] at *; omega

def textNode (position : Option Position) (t : Text) : Node :=
  .ofContent (.text t.quote) (some position)

def interpolationNode (position : Option Position) (inner : Text) : Node :=
  .ofContent (.interpolation (.ofText inner)) (some position)

/-- A text at an end of the whole, which makes no node when it is empty. -/
def boundaryNodes (position : Option Position) (t : Text) : List Node :=
  if t.isEmpty then [] else [textNode position t]

/-- The nodes of the expressions and of the texts after them. -/
def laterNodes (position : Option Position) : List (Text × Text) → List Node
  | [] => []
  | [(inner, last)] => interpolationNode position inner :: boundaryNodes position last
  | (inner, between) :: next :: others =>
      interpolationNode position inner :: textNode position between :: laterNodes position (next :: others)

/-- The nodes of a text. -/
def interpolate (position : Option Position) (content : Text) : List Node :=
  let (first, others) := interpolationPieces content
  boundaryNodes position first ++ laterNodes position others

end ViewCompiler.Template
