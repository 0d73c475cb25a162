import ViewCompiler.Instrument.Error
import ViewCompiler.Script.Document

/-!
# Call sites

A call site of a class is a call of `.then` or `.catch` in the body of one of its methods, not within
a class nested there. Constructors and accessors are not methods. A site can be instrumented when it
has exactly one argument and that argument is not spread.
-/

namespace ViewCompiler.Instrument

open Script

/-- The single argument of a call, with the name of the method that is called. -/
structure Slot where
  call : Node
  argument : Node
  method : Text

/-- The methods whose callbacks are instrumented. -/
def callbackMethods : List Text := ["then".toList, "catch".toList]

/-- The name of a method as it is spelled. -/
def methodName (doc : Document) (method : Node) : Text :=
  match method.child? .name with
  | some name => doc.textOf name
  | none => []

def isConstructor (doc : Document) (member : Node) : Bool :=
  member.kind = .methodDefinition && methodName doc member = "constructor".toList && (member.child? .body).isSome

/-- Whether a member of a class is a method with a body that is neither a constructor nor an accessor. -/
def isMethod (doc : Document) (member : Node) : Bool :=
  member.kind = .methodDefinition && (member.child? .body).isSome &&
    methodName doc member ≠ "constructor".toList && !(member.children.any (·.kind = .accessor))

def methods (doc : Document) (cls : Node) : List Node := (Document.members cls).filter (isMethod doc)

/-- The constructor with a body. An overload of it has none. -/
def constructor? (doc : Document) (cls : Node) : Option Node := (Document.members cls).find? (isConstructor doc)

/-- Whether a node accesses one of the callback methods by name. -/
def isCallbackAccess (doc : Document) (n : Node) : Bool :=
  n.kind = .member &&
    match n.child? .property with
    | some property => property.kind = .propertyName && callbackMethods.contains (doc.textOf property)
    | none => false

/-- Whether a node calls a callback method. -/
def isCallSite (doc : Document) (n : Node) : Bool :=
  n.kind = .call && (n.child? .function).any (isCallbackAccess doc)

/-- The call sites of a tree, a call before the calls within it. Nested classes are left out. -/
def callSites (doc : Document) : Node → List Node
  | ⟨kind, role, start, length, children⟩ =>
      (if isCallSite doc ⟨kind, role, start, length, children⟩ then [⟨kind, role, start, length, children⟩] else []) ++
        among children
where
  among : List Node → List Node
  | [] => []
  | c :: rest => (if c.kind.isClass then [] else callSites doc c) ++ among rest

/-- The slot of a call. The two names go into the error when the call has no single argument. -/
def Slot.ofCall (doc : Document) (className methodName : Option Text) (call : Node) : Except Error Slot :=
  let values := ((call.child? .arguments).map Node.parts).getD []
  let function := call.child? .function
  let named := (function.bind (·.child? .property)).or function
  let method := (named.map doc.textOf).getD []
  let line := doc.lineOf call
  match values with
  | [argument] =>
      if argument.kind = .spread then .error ⟨.spreadArgument method line, className, methodName⟩
      else .ok ⟨call, argument, method⟩
  | _ => .error ⟨.argumentCount method line values.length, className, methodName⟩

/-- The call sites of a class with the names of the methods they are in, method by method. -/
def sites (doc : Document) (cls : Node) : List (Text × Node) :=
  (methods doc cls).flatMap fun method =>
    match method.child? .body with
    | some body => (callSites doc body).map fun call => (methodName doc method, call)
    | none => []

/-- The slots of all call sites of a class, or the error of the first that has none. -/
def slots (doc : Document) (cls : Node) : Except Error (List Slot) :=
  (sites doc cls).mapM fun (method, call) => Slot.ofCall doc (some (doc.className cls)) (some method) call

end ViewCompiler.Instrument
