import ViewCompiler.Edit.Basic

/-!
# Applying edits

The edits of a plan are ordered by nesting: an edit within another is rendered first, and the outer
one gets the result as its current text. Of two edits of the same range the later one is the outer
one. Two edits that overlap without one containing the other cannot be applied together.

The nesting is found in one pass over the sorted edits with a stack of the edits that are still open,
innermost first.
-/

namespace ViewCompiler

/-- A reason why an edit does not fit a text. The first number is its place in the plan. -/
inductive Edit.Problem where
  | negativeStart (place : Nat) (start : Int)
  | beyondEnd (place : Nat) (stop : Int) (length : Nat)
  deriving DecidableEq, Repr

inductive Edit.Error where
  | reversedRange (start stop : Int)
  | outOfBounds (problems : List Edit.Problem)
  | overlap (first second : Range)
  deriving DecidableEq, Repr

/-- An edit with the edits directly within it, in order. -/
inductive Edit.Nested where
  | mk (edit : Edit) (inner : List Edit.Nested)

/-- What applying a plan amounted to. -/
structure Edit.Stats where
  applied : Nat
  removed : Int
  added : Int
  deriving DecidableEq, Repr

/-- An edit whose range may still contain the edits to come, with the edits found within it, last first. -/
structure Edit.Opened where
  edit : Edit
  inner : List Edit.Nested

namespace Edit

def Problem.message : Problem → Text
  | negativeStart place start => s!"Edit {place}: start_char ({start}) is negative"
  | beyondEnd place stop length => s!"Edit {place}: end_char ({stop}) exceeds text length ({length})"

/-- The name under which messages show a range. -/
def rangeText (r : Range) : Text := s!"TextRange(start_char={r.start}, end_char={r.stop})"

def Error.message : Error → Text
  | reversedRange start stop => s!"Invalid range: start_char ({start}) > end_char ({stop})"
  | outOfBounds problems => "Edit validation failed: " ++ Text.join "; " (problems.map Problem.message)
  | overlap first second => "Overlapping edits: " ++ rangeText first ++ " and " ++ rangeText second

/-- What keeps one edit from fitting a text of the given length. -/
def problemsOf (length place : Nat) (e : Edit) : List Problem :=
  (if e.range.start < 0 then [.negativeStart place e.range.start] else []) ++
    if (length : Int) < e.range.stop then [.beyondEnd place e.range.stop length] else []

def problems (text : Text) (plan : Plan) : List Problem :=
  plan.zipIdx.flatMap fun (e, place) => problemsOf text.length place e

/-- The order in which the nesting is found: by start, insertions before the edits that start where they
stand, longer edits before shorter ones, and of two edits of one range the later one first. -/
def comesFirst (a b : Edit × Nat) : Bool :=
  if a.1.range.start ≠ b.1.range.start then a.1.range.start < b.1.range.start
  else if a.1.isInsertion ≠ b.1.isInsertion then a.1.isInsertion
  else if a.1.range.stop ≠ b.1.range.stop then b.1.range.stop < a.1.range.stop
  else b.2 ≤ a.2

def ordered (plan : Plan) : List Edit := (plan.zipIdx.mergeSort comesFirst).map Prod.fst

/-- Closes the innermost open edit: it goes into the one around it, or to the outermost ones, last first. -/
def closeInto (closed : Opened) (rest : List Opened) (outermost : List Nested) : List Opened × List Nested :=
  let nested := Nested.mk closed.edit closed.inner.reverse
  match rest with
  | [] => ([], nested :: outermost)
  | around :: further => ({ around with inner := nested :: around.inner } :: further, outermost)

theorem length_closeInto (closed : Opened) (rest : List Opened) (outermost : List Nested) :
    (closeInto closed rest outermost).1.length = rest.length := by
  cases rest <;> rfl

/-- Opens an edit after closing the open ones that do not contain it. -/
def enter (e : Edit) (stack : List Opened) (outermost : List Nested) :
    Except Error (List Opened × List Nested) :=
  match stack with
  | [] => .ok ([⟨e, []⟩], outermost)
  | top :: rest =>
      if top.edit.range.contains e.range then .ok (⟨e, []⟩ :: top :: rest, outermost)
      else if top.edit.range.overlaps e.range then .error (.overlap top.edit.range e.range)
      else enter e (closeInto top rest outermost).1 (closeInto top rest outermost).2
  termination_by stack.length
  decreasing_by simp [length_closeInto]

/-- Closes every open edit. -/
def closeAll (stack : List Opened) (outermost : List Nested) : List Nested :=
  match stack with
  | [] => outermost.reverse
  | top :: rest => closeAll (closeInto top rest outermost).1 (closeInto top rest outermost).2
  termination_by stack.length
  decreasing_by simp [length_closeInto]

/-- The nesting of edits that come in the order of `comesFirst`. -/
def nestFrom : List Edit → List Opened → List Nested → Except Error (List Nested)
  | [], stack, outermost => .ok (closeAll stack outermost)
  | e :: rest, stack, outermost =>
      match enter e stack outermost with
      | .ok (stack, outermost) => nestFrom rest stack outermost
      | .error error => .error error

/-- The outermost edits of a plan, each with what is nested in it. -/
def nest (plan : Plan) : Except Error (List Nested) := nestFrom (ordered plan) [] []

def Nested.edit : Nested → Edit
  | mk edit _ => edit

/-- The new text of an edit's range. -/
def Nested.render (text : Text) : Nested → Text
  | mk edit inner => edit.render (splice edit.range.start.toNat edit.range.stop.toNat inner)
where
  /-- The text from `start` to `stop` with the given edits, in order, rendered in place. -/
  splice (start stop : Nat) : List Nested → Text
  | [] => text.slice start stop
  | n :: rest =>
      text.slice start n.edit.range.start.toNat ++ n.render text ++ splice n.edit.range.stop.toNat stop rest

/-- How many characters the ranges of edits next to each other cover. -/
def covered : List Nested → Int
  | [] => 0
  | n :: rest => n.edit.range.length + covered rest

/-- The text with every edit of the plan applied. -/
def apply (text : Text) (plan : Plan) : Except Error (Text × Stats) :=
  match problems text plan with
  | [] =>
      match nest plan with
      | .ok outermost =>
          let result := Nested.render.splice text 0 text.length outermost
          let removed := covered outermost
          .ok (result, ⟨plan.length, removed, result.length - text.length + removed⟩)
      | .error error => .error error
  | found => .error (.outOfBounds found)

end Edit

end ViewCompiler
