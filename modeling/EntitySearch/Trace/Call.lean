import EntitySearch.Trace.Tracer

/-!
# Traced calls

What a traced function does, as far as its spans depend on it (`Body`): it adds attributes to the current span, calls traced
functions and goes on by what comes of them, and returns or raises. A call runs it in a span of its own (`Tracer.traced`),
which has the attributes the function is declared with, those of the arguments and those that are added, and a status that
follows from the result. A tree of calls described by what each function does besides them (`Call`) is run as such a body.
-/

namespace EntitySearch.Trace

/-- A traced function, and the arguments of a call of it. -/
structure Target where
  /-- The name of its span, if it has one of its own. -/
  spanName : Option String := none
  moduleName : String := "mod"
  functionName : String := "body"
  /-- The attributes its span has from the start. -/
  attributes : List (String × Value) := []
  /-- The arguments it is given by keyword. -/
  arguments : List (String × Value) := []
  deriving Repr, Inhabited

/-- The name of the span of a call: its own, or else the name of the function in its module. -/
def Target.name (t : Target) : String :=
  match t.spanName with
  | some n => if n.isEmpty then t.moduleName ++ "." ++ t.functionName else n
  | none => t.moduleName ++ "." ++ t.functionName

/-- What the span of a call records of the way the function ended. -/
def Recording.concluded {α : Type} (result : Except Failure α) (r : Recording) : Recording :=
  match result with
  | .ok _ => r.withStatus .ok
  | .error e => (r.withStatus (.error e false)).withEvent e

/-- Runs what a function does as a call of it, in a span. -/
def Tracer.traced (target : Target) (body : Action) : Action :=
  Tracer.inSpan target.name fun id t =>
    let t := t.record id fun r => r.withAttributes target.attributes
    let t := t.record id fun r => r.withAttributes (Attributes.ofArguments target.arguments)
    let (result, t) := body t
    (result, t.record id fun r => r.concluded result)

/-- What a function does. -/
inductive Body where
  | returns (value : Value)
  | raises (failure : Failure)
  /-- It adds attributes to the current span, and goes on. -/
  | adds (attributes : List (String × Value)) (rest : Body)
  /-- It calls a traced function, which does something of its own, and goes on by what comes of the call. -/
  | calls (target : Target) (inner : Body) (rest : Except Failure Value → Body)
  deriving Inhabited

/-- Does under a tracer what a function does. -/
def Body.run : Body → Action
  | .returns v, t => (.ok v, t)
  | .raises e, t => (.error e, t)
  | .adds attributes rest, t => rest.run (t.addAttributes attributes)
  | .calls target inner rest, t =>
    let (result, t) := t.traced target (fun t => inner.run t)
    (rest result).run t

/-! ## Calls that are described -/

/-- A call of a traced function, and what the function does besides the calls it makes. -/
structure Frame extends Target where
  /-- The attributes it adds to the current span before it makes its calls. -/
  added : List (String × Value) := []
  /-- Whether it goes on when one of its calls fails. -/
  swallows : Bool := false
  /-- The failure it ends with, if it does. -/
  failure : Option Failure := none
  /-- The value it returns otherwise. -/
  returns : Value := .null
  deriving Repr, Inhabited

/-- What a function does when its calls have been made. -/
def Frame.ending (f : Frame) : Body :=
  match f.failure with
  | some e => .raises e
  | none => .returns f.returns

/-- A call of a traced function with the calls it makes. -/
inductive Call where
  | mk (frame : Frame) (inner : List Call)
  deriving Repr, Inhabited

/-- The function that is called. -/
def Call.target : Call → Target
  | .mk frame _ => frame.toTarget

mutual

/-- What the function does that is called. -/
def Call.body : Call → Body
  | .mk frame inner => .adds frame.added (bodyOf frame inner)

/-- Makes calls one after the other; a failure ends them unless it is swallowed. -/
def bodyOf (frame : Frame) : List Call → Body
  | [] => frame.ending
  | c :: cs => .calls c.target c.body fun result =>
    match result, frame.swallows with
    | .error e, false => .raises e
    | _, _ => bodyOf frame cs

end

/-- A result and the spans finished on the way. -/
structure Outcome (α : Type) where
  result : Except Failure α
  spans : List Span

/-- Runs a call inside a span, or outside all spans. -/
def Call.run (caller : Option String) (c : Call) : Outcome Value :=
  let (result, t) := (Tracer.within caller).traced c.target c.body.run
  ⟨result, t.finished.map TracedSpan.toSpan⟩

end EntitySearch.Trace
