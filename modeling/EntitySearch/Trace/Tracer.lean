import EntitySearch.Trace.Span

/-!
# Tracers

A tracer keeps the spans that are running, the one that is current, and the finished ones in the order in which they ended. A
span is known by its number: numbers are given out in the order in which spans start, so that no running span has the number
of one yet to come (`Tracer.numbered`). What runs in a new span (`Tracer.inSpan`) has it as the current one; however that ends,
the span that was current before is current again and the new one is finished, and a failure on its way out is recorded on it.
There is no limit to the number of attributes of a span.
-/

namespace EntitySearch.Trace

/-- Which span: its number, and its name. -/
structure SpanId where
  number : Nat
  name : String
  deriving Repr, DecidableEq

/-- The status of a span. -/
inductive Status where
  | unset
  | ok
  /-- A failure, whose description names its kind before the message or has the message only. -/
  | error (failure : Failure) (namesKind : Bool)
  deriving Repr

/-- The failure that a status tells of. -/
def Status.failure? : Status → Option Failure
  | .error e _ => some e
  | _ => none

/-- What a span has recorded. -/
structure Recording where
  attributes : Attributes := []
  status : Status := .unset
  /-- The failures recorded as events. -/
  events : List Failure := []
  deriving Repr

namespace Recording

/-- The recording with more attributes. -/
def withAttributes (attributes : List (String × Value)) (r : Recording) : Recording :=
  { r with attributes := r.attributes.setAll attributes }

/-- The recording with another status. One that is ok is final, and a status cannot be taken back. -/
def withStatus (status : Status) (r : Recording) : Recording :=
  match r.status, status with
  | .ok, _ => r
  | _, .unset => r
  | _, s => { r with status := s }

/-- The recording with a failure as one more event. -/
def withEvent (e : Failure) (r : Recording) : Recording := { r with events := r.events ++ [e] }

/-- What a span records when the code inside it ends with a result: a failure that passes through. -/
def left {α : Type} (result : Except Failure α) (r : Recording) : Recording :=
  match result with
  | .ok _ => r
  | .error e => (r.withEvent e).withStatus (.error e true)

end Recording

/-- A span of a tracer. -/
structure TracedSpan where
  id : SpanId
  /-- The span that was current when it started. -/
  parent : Option SpanId
  recording : Recording := {}
  deriving Repr

namespace TracedSpan

/-- The span with its recording changed, if it is the one with an id. -/
def record (id : SpanId) (change : Recording → Recording) (s : TracedSpan) : TracedSpan :=
  if s.id = id then { s with recording := change s.recording } else s

/-- A finished span as it is handed on. -/
def toSpan (s : TracedSpan) : Span :=
  ⟨s.id.name, s.parent.map fun p => p.name, s.recording.attributes, s.recording.status.failure?⟩

theorem id_record (id : SpanId) (change : Recording → Recording) (s : TracedSpan) : (s.record id change).id = s.id := by
  unfold record
  split <;> rfl

end TracedSpan

/-- A tracer. -/
structure Tracer where
  /-- The number of the next span. -/
  started : Nat
  running : List TracedSpan
  /-- The current span. It need not be one of the running ones. -/
  current : Option SpanId
  finished : List TracedSpan
  /-- No running span has a number that is not given out yet. -/
  numbered : ∀ s ∈ running, s.id.number < started

namespace Tracer

/-- A tracer that has no spans yet. The current span, if there is one, is a span of that name elsewhere. -/
def within (caller : Option String) : Tracer where
  started := 1
  running := []
  current := caller.map fun name => ⟨0, name⟩
  finished := []
  numbered := by simp

/-- The tracer with one more running span, which does not become the current one. -/
def start (name : String) (t : Tracer) : Tracer where
  started := t.started + 1
  running := { id := ⟨t.started, name⟩, parent := t.current } :: t.running
  current := t.current
  finished := t.finished
  numbered := by
    intro s hs
    rcases List.mem_cons.mp hs with rfl | hs
    · exact Nat.lt_succ_self t.started
    · exact Nat.lt_succ_of_lt (t.numbered s hs)

/-- The tracer with another current span, or none. -/
def enter (current : Option SpanId) (t : Tracer) : Tracer := { t with current := current }

/-- The tracer with the recording of a running span changed. A span that is not running does not record. -/
def record (id : SpanId) (change : Recording → Recording) (t : Tracer) : Tracer where
  started := t.started
  running := t.running.map fun s => s.record id change
  current := t.current
  finished := t.finished
  numbered := by
    intro s hs
    obtain ⟨r, hr, rfl⟩ := List.mem_map.mp hs
    rw [TracedSpan.id_record]
    exact t.numbered r hr

/-- The tracer with a span ended. -/
def finish (id : SpanId) (t : Tracer) : Tracer where
  started := t.started
  running := t.running.filter fun s => s.id ≠ id
  current := t.current
  finished := t.finished ++ t.running.filter fun s => s.id = id
  numbered := fun s hs => t.numbered s (List.mem_filter.mp hs).1

/-- Adds attributes to the current span, where there is one that records. Null values are skipped. -/
def addAttributes (attributes : List (String × Value)) (t : Tracer) : Tracer :=
  match t.current with
  | none => t
  | some id => t.record id fun r => r.withAttributes (Attributes.given attributes)

end Tracer

/-- Something that runs under a tracer. -/
abbrev Action := Tracer → Except Failure Value × Tracer

/-- Runs something inside a new span. -/
def Tracer.inSpan (name : String) (body : SpanId → Action) : Action := fun t =>
  let id : SpanId := ⟨t.started, name⟩
  let (result, t') := body id ((t.start name).enter (some id))
  (result, (((t'.enter t.current).record id fun r => r.left result).finish id))

end EntitySearch.Trace
