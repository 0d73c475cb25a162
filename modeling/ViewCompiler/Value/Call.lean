import ViewCompiler.Value.Split

/-!
# Calls of handlers

A call is a name and arguments in parentheses that close at the very end. An argument is the
placeholder, a literal or a path; none may be empty.
-/

namespace ViewCompiler.Expression

/-- Whether the parenthesis that makes the depth `depth` closes exactly with the last character. Only
parentheses count, and none within quotes. -/
def closesAtEnd (depth : Nat) (quote : Option Char) (last : Char) : Text → Bool
  | [] => false
  | c :: rest =>
      match quote with
      | some mark => closesAtEnd depth (if c == mark && last != '\\' then none else some mark) c rest
      | none =>
          if isQuoteMark c then closesAtEnd depth (some c) c rest
          else if c = '(' then closesAtEnd (depth + 1) none c rest
          else if c = ')' then if depth ≤ 1 then rest.isEmpty else closesAtEnd (depth - 1) none c rest
          else closesAtEnd depth none c rest

/-- One argument of a call. -/
def argument? (t : Text) : Option Argument :=
  let stripped := t.strip
  if stripped.isEmpty then none
  else if stripped = Argument.placeholderText then some .placeholder
  else some (.ofText stripped)

/-- The arguments of a call, from what stands between its parentheses. -/
def arguments? (inner : Text) : Option (List Argument) :=
  if inner.isAllBlank then some [] else (split "," inner).mapM argument?

/-- The call that a text denotes. -/
def call? (t : Text) : Option Value :=
  let stripped := t.strip
  let head : Text := stripped.takeWhile (· != '(')
  let name := head.strip
  match stripped.drop head.length with
  | [] => none
  | mark :: rest =>
      if name.isEmpty || !closesAtEnd 0 none mark (mark :: rest) then none
      else (arguments? rest.dropLast).map fun arguments => .call name arguments

/-- A call as it is written in a template. -/
def printCall (name : Text) (arguments : List Argument) : Text :=
  name ++ "(" ++ Text.join ", " (arguments.map Argument.print) ++ ")"

end ViewCompiler.Expression
