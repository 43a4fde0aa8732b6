import Mathlib.Data.List.Nodup
import EntitySearch.Proofs.SpanAttributes
import EntitySearch.Trace.Call

/-!
# What spans tell of calls

What a function does can be told without a tracer: what comes of it (`Body.result`), and the calls it makes with what each of
them adds to its own span (`Body.course`), a tree for each call (`CallTree`). Running a function under a tracer follows its
course (`Body.run_follows`): nothing else is recorded on the spans that were running, and the spans of its calls are finished
in post-order. A call leaves the tracer as it was but for these spans and its own, and comes to what the function comes to
(`tracing_is_transparent_and_faithful`).
-/

namespace EntitySearch.Trace

/-! ## Calls without a tracer -/

/-- What comes of what a function does. -/
def Body.result : Body → Except Failure Value
  | .returns v => .ok v
  | .raises e => .error e
  | .adds _ rest => rest.result
  | .calls _ inner rest => (rest inner.result).result

/-- A call with the calls made in it, in order. -/
inductive CallTree where
  /-- A call, by its number in the order in which calls start: the attributes added while it is the innermost one, what comes
  of it, and the calls made in it. -/
  | node (number : Nat) (target : Target) (added : List (String × Value)) (result : Except Failure Value)
      (inner : List CallTree)

/-- What a function leaves on the span it runs in and the calls it makes, and the number of the next call. -/
structure Course where
  added : List (String × Value)
  inner : List CallTree
  next : Nat

/-- One course and then another. -/
def Course.followedBy (c d : Course) : Course := ⟨c.added ++ d.added, c.inner ++ d.inner, d.next⟩

/-- The course of a single call, by the course of the function in it. -/
def Course.ofCall (number : Nat) (target : Target) (result : Except Failure Value) (c : Course) : Course :=
  ⟨[], [.node number target c.added result c.inner], c.next⟩

/-- The course of what a function does; its calls have numbers from a given one on. -/
def Body.course : Body → Nat → Course
  | .returns _, n => ⟨[], [], n⟩
  | .raises _, n => ⟨[], [], n⟩
  | .adds attributes rest, n => Course.followedBy ⟨attributes, [], n⟩ (rest.course n)
  | .calls target inner rest, n =>
    let called := inner.course (n + 1)
    (Course.ofCall n target inner.result called).followedBy ((rest inner.result).course called.next)

/-- The call of a function that has a number. -/
def Body.call (target : Target) (number : Nat) (b : Body) : CallTree :=
  .node number target (b.course (number + 1)).added b.result (b.course (number + 1)).inner

/-- A call as it is seen where it was made. -/
structure TracedCall where
  /-- The innermost call around it, if there is one. -/
  caller : Option SpanId
  number : Nat
  target : Target
  added : List (String × Value)
  result : Except Failure Value

namespace TracedCall

/-- The span of a call. -/
def id (c : TracedCall) : SpanId := ⟨c.number, c.target.name⟩

/-- What the span of a call has recorded in the end. -/
def recording (c : TracedCall) : Recording :=
  ((((({} : Recording).withAttributes c.target.attributes).withAttributes (Attributes.ofArguments c.target.arguments))
    |>.withAttributes c.added).concluded c.result).left c.result

/-- The span of a call as it is finished. -/
def span (c : TracedCall) : TracedSpan := ⟨c.id, c.caller, c.recording⟩

end TracedCall

mutual

/-- The calls of a tree in post-order: each after the calls made in it. -/
def CallTree.postorder (caller : Option SpanId) : CallTree → List TracedCall
  | .node number target added result inner =>
    postorderAll (some ⟨number, target.name⟩) inner ++ [⟨caller, number, target, added, result⟩]

/-- The calls of several trees in post-order. -/
def postorderAll (caller : Option SpanId) : List CallTree → List TracedCall
  | [] => []
  | c :: cs => c.postorder caller ++ postorderAll caller cs

end

/-- The calls of trees in a row are those of the front and of the rest. -/
theorem postorderAll_append (caller : Option SpanId) (cs ds : List CallTree) :
    postorderAll caller (cs ++ ds) = postorderAll caller cs ++ postorderAll caller ds := by
  induction cs with
  | nil => rfl
  | cons c cs ih => rw [List.cons_append, postorderAll, postorderAll, ih, List.append_assoc]

theorem postorderAll_singleton (caller : Option SpanId) (c : CallTree) : postorderAll caller [c] = c.postorder caller := by
  rw [postorderAll, postorderAll, List.append_nil]

/-! ## Running spans -/

/-- A recording takes no nulls. -/
theorem Recording.withAttributes_given (attributes : List (String × Value)) (r : Recording) :
    r.withAttributes (Attributes.given attributes) = r.withAttributes attributes := by
  rw [withAttributes, Attributes.setAll_given, withAttributes]

namespace TracedSpan

/-- The span after attributes were added to the current one. -/
def noting (current : Option SpanId) (attributes : List (String × Value)) (s : TracedSpan) : TracedSpan :=
  if current = some s.id then { s with recording := s.recording.withAttributes attributes } else s

/-- Adding to the current span records on the span of its number. -/
theorem noting_some (id : SpanId) (attributes : List (String × Value)) (s : TracedSpan) :
    s.noting (some id) attributes = s.record id fun r => r.withAttributes attributes := by
  simp only [noting, record, Option.some.injEq, eq_comm]

theorem noting_none (attributes : List (String × Value)) (s : TracedSpan) : s.noting none attributes = s := by
  simp [noting]

theorem noting_nil (current : Option SpanId) (s : TracedSpan) : s.noting current [] = s := by
  unfold noting
  split <;> rfl

/-- Attributes can be added in two turns. -/
theorem noting_append (current : Option SpanId) (attributes more : List (String × Value)) (s : TracedSpan) :
    s.noting current (attributes ++ more) = (s.noting current attributes).noting current more := by
  by_cases hcurrent : current = some s.id
  · simp [noting, hcurrent, Recording.withAttributes, Attributes.setAll_append]
  · simp [noting, hcurrent]

variable {id : SpanId} {parent : Option SpanId} {r : Recording} {spans : List TracedSpan}

/-- A change of the recording of a span changes no span that has another number. -/
theorem map_record_cons (h : ∀ s ∈ spans, s.id ≠ id) (change : Recording → Recording) :
    (⟨id, parent, r⟩ :: spans).map (record id change) = ⟨id, parent, change r⟩ :: spans := by
  rw [List.map_cons, record, if_pos rfl, List.map_congr_left (g := fun s => s), List.map_id']
  intro s hs
  rw [record, if_neg (h s hs)]

end TracedSpan

namespace Tracer

variable {t t' t'' : Tracer} {c d : Course}

/-- How a tracer goes on when a function does what it does, by the course of the function: what is added is recorded on the
span that is current, and the spans of the calls are finished. -/
structure Follows (t : Tracer) (c : Course) (t' : Tracer) : Prop where
  started : t'.started = c.next
  current : t'.current = t.current
  running : t'.running = t.running.map fun s => s.noting t.current c.added
  finished : t'.finished = t.finished ++ (postorderAll t.current c.inner).map TracedCall.span

theorem Follows.refl (t : Tracer) : t.Follows ⟨[], [], t.started⟩ t where
  started := rfl
  current := rfl
  running := by simp [TracedSpan.noting_nil]
  finished := by simp [postorderAll]

/-- What is done after what was done goes on from where the tracer was left. -/
theorem Follows.trans (h : t.Follows c t') (h' : t'.Follows d t'') : t.Follows (c.followedBy d) t'' where
  started := h'.started
  current := h'.current.trans h.current
  running := by
    rw [h'.running, h.running, List.map_map, h.current]
    exact List.map_congr_left fun s _ => (TracedSpan.noting_append _ _ _ s).symm
  finished := by
    rw [h'.finished, h.finished, h.current, Course.followedBy, postorderAll_append, List.map_append, List.append_assoc]

/-- Attributes that are added are recorded on the current span. That nulls are left out makes no difference: none is taken. -/
theorem follows_addAttributes (t : Tracer) (attributes : List (String × Value)) :
    t.Follows ⟨attributes, [], t.started⟩ (t.addAttributes attributes) := by
  unfold addAttributes
  cases hcurrent : t.current with
  | none => exact ⟨rfl, rfl, by simp [hcurrent, TracedSpan.noting_none], by simp [postorderAll]⟩
  | some id =>
    simp only [Recording.withAttributes_given]
    exact ⟨rfl, rfl, by simp [hcurrent, TracedSpan.noting_some, record], by simp [postorderAll, record]⟩

section

variable {id : SpanId} {parent : Option SpanId} {r : Recording} {spans : List TracedSpan}

/-- A change of the recording of the newest span leaves the other running ones alone. -/
theorem running_record (h : t.running = ⟨id, parent, r⟩ :: spans) (hfresh : ∀ s ∈ spans, s.id ≠ id)
    (change : Recording → Recording) : (t.record id change).running = ⟨id, parent, change r⟩ :: spans := by
  show t.running.map (fun s => s.record id change) = _
  rw [h, TracedSpan.map_record_cons hfresh]

/-- What a function adds while the newest span is current is recorded on that span. -/
theorem Follows.running_cons (h : t.Follows c t') (hcurrent : t.current = some id)
    (hrunning : t.running = ⟨id, parent, r⟩ :: spans) (hfresh : ∀ s ∈ spans, s.id ≠ id) :
    t'.running = ⟨id, parent, r.withAttributes c.added⟩ :: spans := by
  rw [h.running, hcurrent, hrunning]
  simp only [TracedSpan.noting_some]
  exact TracedSpan.map_record_cons hfresh _

/-- Ending the newest span leaves the others running. -/
theorem running_finish (h : t.running = ⟨id, parent, r⟩ :: spans) (hfresh : ∀ s ∈ spans, s.id ≠ id) :
    (t.finish id).running = spans := by
  simpa [finish, h] using hfresh

/-- Ending the newest span puts it behind those that have ended. -/
theorem finished_finish (h : t.running = ⟨id, parent, r⟩ :: spans) (hfresh : ∀ s ∈ spans, s.id ≠ id) :
    (t.finish id).finished = t.finished ++ [⟨id, parent, r⟩] := by
  simpa [finish, h] using hfresh

end

/-- No running span is the one that starts next. -/
theorem id_ne_of_running (t : Tracer) (name : String) : ∀ s ∈ t.running, s.id ≠ ⟨t.started, name⟩ :=
  fun s hs heq => Nat.ne_of_lt (t.numbered s hs) (congrArg SpanId.number heq)

/-- The tracer under which the function of a call runs: its span is the current one, and has its first attributes. -/
def inside (target : Target) (t : Tracer) : Tracer :=
  let id : SpanId := ⟨t.started, target.name⟩
  (((t.start target.name).enter (some id)).record id fun r => r.withAttributes target.attributes).record id
    fun r => r.withAttributes (Attributes.ofArguments target.arguments)

/-- The tracer after a call, by what came of the function and the tracer as it was then. -/
def outside (target : Target) (t : Tracer) (result : Except Failure Value) (ended : Tracer) : Tracer :=
  let id : SpanId := ⟨t.started, target.name⟩
  (((ended.record id fun r => r.concluded result).enter t.current).record id fun r => r.left result).finish id

/-- A call runs the function inside its span, and then ends the span. -/
theorem traced_eq (target : Target) (body : Action) (t : Tracer) :
    traced target body t =
      ((body (t.inside target)).1, t.outside target (body (t.inside target)).1 (body (t.inside target)).2) :=
  rfl

/-- Inside a call its span is the newest running one, with the attributes it has from the start. -/
theorem running_inside (target : Target) (t : Tracer) :
    (t.inside target).running =
      ⟨⟨t.started, target.name⟩, t.current, (({} : Recording).withAttributes target.attributes).withAttributes
        (Attributes.ofArguments target.arguments)⟩ :: t.running :=
  running_record (running_record rfl (t.id_ne_of_running _) _) (t.id_ne_of_running _) _

/-- After a call its span is finished, and the spans that were running are left. -/
theorem outside_spec {target : Target} {ended : Tracer} {r : Recording} (result : Except Failure Value)
    (h : ended.running = ⟨⟨t.started, target.name⟩, t.current, r⟩ :: t.running) :
    (t.outside target result ended).running = t.running ∧
      (t.outside target result ended).finished =
        ended.finished ++ [⟨⟨t.started, target.name⟩, t.current, (r.concluded result).left result⟩] := by
  have hfresh := t.id_ne_of_running target.name
  have hconcluded : ((ended.record ⟨t.started, target.name⟩ fun r => r.concluded result).enter t.current).running = _ :=
    running_record h hfresh _
  have hleft := running_record hconcluded hfresh fun r => r.left result
  exact ⟨running_finish hleft hfresh, finished_finish hleft hfresh⟩

/-- A call of a function whose course is known comes to what the function comes to, and goes on as a single call does. -/
theorem follows_traced {body : Action} {result : Except Failure Value} {course : Nat → Course}
    (h : ∀ t : Tracer, (body t).1 = result ∧ t.Follows (course t.started) (body t).2) (target : Target) (t : Tracer) :
    (traced target body t).1 = result ∧
      t.Follows (.ofCall t.started target result (course (t.started + 1))) (traced target body t).2 := by
  obtain ⟨hresult, hbody⟩ := h (t.inside target)
  have hrunning := hbody.running_cons rfl (running_inside target t) (t.id_ne_of_running target.name)
  obtain ⟨hleft, hfinished⟩ := outside_spec result hrunning
  rw [traced_eq, hresult]
  refine ⟨rfl, hbody.started, rfl, ?_, ?_⟩
  · rw [hleft]
    simp [Course.ofCall, TracedSpan.noting_nil]
  · rw [hfinished, hbody.finished, Course.ofCall, postorderAll_singleton, CallTree.postorder, List.map_append,
      ← List.append_assoc]
    rfl

end Tracer

/-- **Running a function follows its course.** -/
theorem Body.run_follows (b : Body) (t : Tracer) :
    (b.run t).1 = b.result ∧ t.Follows (b.course t.started) (b.run t).2 := by
  induction b generalizing t with
  | returns v => exact ⟨rfl, .refl t⟩
  | raises e => exact ⟨rfl, .refl t⟩
  | adds attributes rest ih =>
    have hadds := t.follows_addAttributes attributes
    obtain ⟨hresult, hrest⟩ := ih (t.addAttributes attributes)
    rw [hadds.started] at hrest
    exact ⟨hresult, hadds.trans hrest⟩
  | calls target inner rest ihinner ihrest =>
    obtain ⟨hcalled, hcall⟩ := Tracer.follows_traced ihinner target t
    obtain ⟨hresult, hrest⟩ := ihrest inner.result (Tracer.traced target inner.run t).2
    rw [hcall.started] at hrest
    have hrun : (Body.calls target inner rest).run t =
        (rest (Tracer.traced target inner.run t).1).run (Tracer.traced target inner.run t).2 := rfl
    rw [hrun, hcalled]
    exact ⟨hresult, hcall.trans hrest⟩

/-! ## Numbers -/

/-- Whether calls have numbers of their own, all from a given one on and less than another. -/
structure Numbered (n m : Nat) (calls : List TracedCall) : Prop where
  le : n ≤ m
  bounds : ∀ c ∈ calls, n ≤ c.number ∧ c.number < m
  distinct : (calls.map TracedCall.number).Nodup

namespace Numbered

variable {n m k : Nat} {cs ds : List TracedCall}

theorem nil (n : Nat) : Numbered n n [] := ⟨Nat.le_refl n, by simp, List.nodup_nil⟩

/-- Calls after calls have the numbers from where those end. -/
theorem append (hc : Numbered n m cs) (hd : Numbered m k ds) : Numbered n k (cs ++ ds) where
  le := Nat.le_trans hc.le hd.le
  bounds c h := by
    rcases List.mem_append.mp h with h | h
    · exact ⟨(hc.bounds c h).1, Nat.lt_of_lt_of_le (hc.bounds c h).2 hd.le⟩
    · exact ⟨Nat.le_trans hc.le (hd.bounds c h).1, (hd.bounds c h).2⟩
  distinct := by
    rw [List.map_append, List.nodup_append]
    refine ⟨hc.distinct, hd.distinct, ?_⟩
    rintro x hx y hy rfl
    obtain ⟨c, hcs, rfl⟩ := List.mem_map.mp hx
    obtain ⟨d, hds, hsame⟩ := List.mem_map.mp hy
    have hlt := (hc.bounds c hcs).2
    have hge := (hd.bounds d hds).1
    omega

/-- A call after the calls made in it, the first of which has the next number. -/
theorem snoc (h : Numbered (n + 1) m cs) {c : TracedCall} (hc : c.number = n) : Numbered n m (cs ++ [c]) where
  le := Nat.le_trans (Nat.le_succ n) h.le
  bounds d hd := by
    have hle := h.le
    rcases List.mem_append.mp hd with hd | hd
    · have hbounds := h.bounds d hd
      omega
    · rw [List.mem_singleton.mp hd]
      omega
  distinct := by
    rw [List.map_append, List.nodup_append]
    refine ⟨h.distinct, List.nodup_singleton _, ?_⟩
    rintro x hx y hy rfl
    obtain ⟨d, hd, rfl⟩ := List.mem_map.mp hx
    have hsame : d.number = c.number := by simpa using hy
    have hge := (h.bounds d hd).1
    omega

/-- A single call, by the course of the function in it. -/
theorem ofCall {c : Course} {target : Target} (h : Numbered (n + 1) c.next (postorderAll (some ⟨n, target.name⟩) c.inner))
    (caller : Option SpanId) (result : Except Failure Value) :
    Numbered n c.next (postorderAll caller (Course.ofCall n target result c).inner) := by
  rw [Course.ofCall, postorderAll_singleton, CallTree.postorder]
  exact h.snoc rfl

end Numbered

/-- The calls of a course have numbers of their own. -/
theorem Body.numbered (b : Body) (caller : Option SpanId) (n : Nat) :
    Numbered n (b.course n).next (postorderAll caller (b.course n).inner) := by
  induction b generalizing caller n with
  | returns v => exact .nil n
  | raises e => exact .nil n
  | adds attributes rest ih => exact ih caller n
  | calls target inner rest ihinner ihrest =>
    have hcall := (ihinner (some ⟨n, target.name⟩) (n + 1)).ofCall caller inner.result
    have hrest := ihrest inner.result caller (inner.course (n + 1)).next
    show Numbered n _ (postorderAll caller (_ ++ _))
    rw [postorderAll_append]
    exact hcall.append hrest

/-! ## What a span tells -/

/-- The status of the span of a call that has a result. -/
def Status.ofResult {α : Type} : Except Failure α → Status
  | .ok _ => .ok
  | .error e => .error e true

/-- What the span of a call tells: which call it is and which one is around it, whether a failure left it, and the attributes,
each name once. They are those that the function is declared with, overlaid with those of the safe arguments, and these with
those that were added in the call: under each name is the last one that a span takes, which a null is not. -/
structure TracedCall.IsReportedBy (c : TracedCall) (s : TracedSpan) : Prop where
  id : s.id = c.id
  parent : s.parent = c.caller
  status : s.recording.status = .ofResult c.result
  events : s.recording.events = (failure? c.result).toList.flatMap fun e => [e, e]
  distinct : (s.recording.attributes.map (·.1)).Nodup
  attributes : ∃ recorded, Attributes.Records c.target.arguments recorded ∧ ∀ name value,
    s.recording.attributes.lookup name = some value ↔
      IsLast (fun a => Attributes.IsTaken a ∧ a.1 = name) (c.target.attributes ++ recorded ++ c.added) (name, value)

namespace TracedCall

/-- The attributes of a span are written in three turns. -/
theorem attributes_recording (c : TracedCall) : c.recording.attributes =
    Attributes.setAll [] (c.target.attributes ++ Attributes.ofArguments c.target.arguments ++ c.added) := by
  rw [Attributes.setAll_append, Attributes.setAll_append]
  unfold recording
  cases c.result <;> rfl

/-- The span that a call leaves reports the call. -/
theorem isReportedBy_span (c : TracedCall) : c.IsReportedBy c.span where
  id := rfl
  parent := rfl
  status := by
    show c.recording.status = _
    unfold recording
    cases c.result <;> rfl
  events := by
    show c.recording.events = _
    unfold recording
    cases c.result <;> rfl
  distinct := by
    show (c.recording.attributes.map (·.1)).Nodup
    rw [attributes_recording]
    have hnone : (([] : Attributes).map (·.1)).Nodup := List.nodup_nil
    exact Attributes.nodup_setAll hnone _
  attributes := by
    refine ⟨_, Attributes.records_ofArguments c.target.arguments, fun name value => ?_⟩
    show c.recording.attributes.lookup name = some value ↔ _
    rw [attributes_recording, Attributes.lookup_setAll_eq_some_iff]

/-- A finished span that is handed on tells of the failures that it has recorded. -/
theorem events_toSpan (c : TracedCall) : c.span.toSpan.events = c.span.recording.events := by
  have hfailure : c.span.toSpan.failure = failure? c.result := by
    show c.span.recording.status.failure? = _
    rw [c.isReportedBy_span.status]
    cases c.result <;> rfl
  rw [c.isReportedBy_span.events, Span.events, hfailure]
  cases c.result <;> rfl

end TracedCall

/-- **Tracing is transparent and faithful.** Whatever a traced function does, and under whatever tracer it is called, the call
comes to what the function comes to without a tracer, and the span that was current is current again. The calls of its tree
finish one span each, in post-order, behind what was finished before, and each span reports its call. No two calls of the tree
have the same number, and none has one that the tracer has already given out. -/
theorem tracing_is_transparent_and_faithful (t : Tracer) (target : Target) (body : Body) :
    (Tracer.traced target body.run t).1 = body.result ∧
    (Tracer.traced target body.run t).2.current = t.current ∧
    (Tracer.traced target body.run t).2.running = t.running ∧
    (∃ spans, (Tracer.traced target body.run t).2.finished = t.finished ++ spans ∧
      List.Forall₂ TracedCall.IsReportedBy ((body.call target t.started).postorder t.current) spans) ∧
    (((body.call target t.started).postorder t.current).map TracedCall.number).Nodup ∧
    ∀ c ∈ (body.call target t.started).postorder t.current, t.started ≤ c.number := by
  obtain ⟨hresult, hcall⟩ := Tracer.follows_traced body.run_follows target t
  have hcalls : (body.call target t.started).postorder t.current =
      postorderAll t.current (Course.ofCall t.started target body.result (body.course (t.started + 1))).inner :=
    (postorderAll_singleton _ _).symm
  have hnumbered := (body.numbered (some ⟨t.started, target.name⟩) (t.started + 1)).ofCall t.current body.result
  rw [hcalls]
  refine ⟨hresult, hcall.current, ?_, ⟨_, hcall.finished, ?_⟩, hnumbered.distinct, fun c hc => (hnumbered.bounds c hc).1⟩
  · rw [hcall.running]
    simp [Course.ofCall, TracedSpan.noting_nil]
  · rw [List.forall₂_map_right_iff, List.forall₂_same]
    exact fun c _ => c.isReportedBy_span

/-- A failure that is caught marks the span of the call it left, and not the one around it. -/
example : ((Call.mk { spanName := some "outer", swallows := true }
    [.mk { spanName := some "inner", failure := some (.foreign "ValueError" "no") } []]).run none).spans.map
      (fun s => (s.name, s.parent, s.failure.isSome)) = [("inner", some "outer", true), ("outer", none, false)] := by
  decide

/-- A tree of calls that is described comes to what its function comes to, and hands on the spans of its calls. -/
theorem Call.run_eq (caller : Option String) (c : Call) :
    (c.run caller).result = c.body.result ∧
      (c.run caller).spans =
        ((c.body.call c.target 1).postorder (caller.map fun name => ⟨0, name⟩)).map fun d => d.span.toSpan := by
  obtain ⟨hresult, hcall⟩ := Tracer.follows_traced c.body.run_follows c.target (Tracer.within caller)
  refine ⟨hresult, ?_⟩
  show (Tracer.traced c.target c.body.run (Tracer.within caller)).2.finished.map TracedSpan.toSpan = _
  rw [hcall.finished, Course.ofCall, postorderAll_singleton, ← Body.call, List.map_append, List.map_map]
  rfl

end EntitySearch.Trace
