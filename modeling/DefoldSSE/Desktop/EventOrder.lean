/-
  DefoldSSE.Desktop.EventOrder — the order of an attempt's events on libcurl.

  The callbacks decide separately: opening looks at `m_Status` and `m_Opened`,
  which every status line starts afresh, while the body goes to the parser
  whatever they are.  `Follows` relates the adapter to the responses received so
  far; each delivery keeps it, and at the end it says how many OPENs there are
  and what was delivered before the first.

    (1) `follows_deliveries` — the invariant, over every order of deliveries;
    (2) `orderedAttempt_iff` — the events are in order exactly when one response
        at most opens and the bodies that must come to nothing are quiet.
-/
import DefoldSSE.Desktop.Attempt
import DefoldSSE.Desktop.Curl
import DefoldSSE.Desktop.Quiet

namespace DefoldSSE

open CLib EventStream

/-! ## §1. The order of a history. -/

/-- A MESSAGE is enqueued, an id is committed or a retry value is taken. -/
def Effect.delivers : Effect → Bool
  | .push e _ => e.type == .eventMessage
  | .storeLastEventId _ => true
  | .setLastEventId _ _ => true
  | .call (.retry _) => true
  | _ => false

/-- An OPEN is enqueued. -/
def Effect.opens : Effect → Bool
  | .push e _ => e.type == .eventOpen
  | _ => false

namespace Adapter

/-- What happened before the first OPEN; everything, if there is none. -/
def beforeOpen (trace : List Effect) : List Effect := trace.takeWhile (fun e => !e.opens)

/-- The events of an attempt are in order: one OPEN at most, nothing delivered
before it, and nothing at all if the status is refused in the end. -/
structure OrderedAttempt (a : Adapter) : Prop where
  oneOpen : (openPushes a.trace).length ≤ 1
  nothingBefore : ∀ e ∈ beforeOpen a.trace, e.delivers = false
  refused : ¬accepted a.conn.status → ∀ e ∈ a.trace, e.delivers = false

theorem openPushes_length (trace : List Effect) :
    (openPushes trace).length = trace.countP Effect.opens := by
  induction trace with
  | nil => rfl
  | cons e trace ih =>
    cases e with
    | push e ok =>
        rw [List.countP_cons, ← ih]
        by_cases h : e.type = .eventOpen <;> simp [openPushes, Effect.opens, h]
    | _ => simpa [openPushes, Effect.opens] using ih

/-- Before the first OPEN nothing more can happen. -/
theorem beforeOpen_append {trace : List Effect} (h : trace.any Effect.opens = true)
    (more : List Effect) : beforeOpen (trace ++ more) = beforeOpen trace := by
  obtain ⟨e, he, hopen⟩ := List.any_eq_true.mp h
  unfold beforeOpen
  rw [List.takeWhile_append, if_neg]
  intro hlen
  have hall := List.takeWhile_eq_self_iff.mp
    ((List.takeWhile_prefix (fun e : Effect => !e.opens)).eq_of_length hlen)
  have := hall e he
  rw [hopen] at this
  cases this

/-- Without an OPEN, everything happened before it. -/
theorem beforeOpen_of_none {trace : List Effect} (h : trace.any Effect.opens = false) :
    beforeOpen trace = trace := by
  apply List.takeWhile_eq_self_iff.mpr
  intro e he
  rw [Bool.not_eq_true', ← Bool.not_eq_true]
  intro hopen
  have := List.any_eq_false.mp h e he
  exact this hopen

/-! ## §2. Adapters are watches. -/

/-- What a watch would know of the adapter. -/
def watched (a : Adapter) : Watch where
  answers := a.queue.message
  messages := (messagePushes a.trace).length
  seen := a.trace.any Effect.delivers

theorem callbacks_watched : SSEParser.CallbackMap callbacks watching watched where
  onEvent a event := by
    have hcall : callbacks.callOnEvent a event = a.onParserEvent event := rfl
    rw [hcall, onParserEvent_eq]
    generalize hok : a.queue.message (messagePushes a.trace).length = ok
    have hwatch : SSEParserCallbacks.callOnEvent watching (watched a) event
        = (ok, { watched a with messages := (watched a).messages + 1, seen := true }) := by
      rw [← hok]
      rfl
    rw [hwatch]
    show _ = (ok, watched ((a.pushed event ok).commitOffered
      (if ok then event.lastEventId else none)))
    cases (if ok then event.lastEventId else none) with
    | none => simp [watched, commitOffered, pushed, queued, messageEvent, Effect.delivers]
    | some id =>
        simp [watched, commitOffered, pushed, queued, messageEvent, Effect.delivers,
          commitLastEventId]
  onRetry a ms := by
    show _ = watched (a.onParserRetry ms)
    simp [watched, watching, SSEParserCallbacks.callOnRetry, onParserRetry, Effect.delivers]
  onId a id := by
    show _ = watched (a.onParserId id)
    simp [watched, watching, SSEParserCallbacks.callOnId, onParserId, commitLastEventId,
      Effect.delivers]
  onError a message := by
    show _ = watched (a.onParserError message)
    simp [watched, watching, SSEParserCallbacks.callOnError, onParserError, enqueueError, queuePush,
      errorEvent, Effect.delivers]

/-- The parser and the watch of an adapter that was fed. -/
theorem feed_watched (a : Adapter) (bytes : Bytes) :
    ((a.feed bytes).conn.parser, watched (a.feed bytes))
      = a.conn.parser.feed bytes watching (watched a) := by
  rw [SSEParser.feed_map callbacks_watched]
  rfl

/-- Feeding adds to the history. -/
theorem feed_extends (a : Adapter) (bytes : Bytes) : a.trace <+: (a.feed bytes).trace := by
  have hkeeps : SSEParser.Preserves callbacks (fun a' => a.trace <+: a'.trace) := {
    onEvent := fun a' event h => by
      have hcall : callbacks.callOnEvent a' event = a'.onParserEvent event := rfl
      rw [hcall, onParserEvent_eq]
      generalize a'.queue.message (messagePushes a'.trace).length = ok
      show a.trace <+: ((a'.pushed event ok).commitOffered
        (if ok then event.lastEventId else none)).trace
      cases (if ok then event.lastEventId else none) with
      | none =>
          simp only [commitOffered, pushed, log_trace, List.append_assoc]
          exact h.trans (List.prefix_append _ _)
      | some id =>
          simp only [commitOffered, pushed, commitLastEventId, log_trace, List.append_assoc]
          exact h.trans (List.prefix_append _ _)
    onRetry := fun a' ms h => h.trans (List.prefix_append _ _)
    onId := fun a' id h => by
      show a.trace <+: (a'.onParserId id).trace
      simp only [onParserId, commitLastEventId, log_trace, List.append_assoc]
      exact h.trans (List.prefix_append _ _)
    onError := fun a' message h => by
      show a.trace <+: (a'.onParserError message).trace
      simp only [onParserError, enqueueError, queuePush, log_trace, List.append_assoc]
      exact h.trans (List.prefix_append _ _) }
  exact SSEParser.feed_preserves hkeeps bytes a.conn.parser (List.prefix_rfl)

/-- What opening adds to the history. -/
theorem openConnection_trace (a : Adapter) : ∃ ok, a.openConnection.trace
    = a.trace ++ [.setConnected a.conn.handle true,
        .push (openEvent a.conn.handle a.conn.status) ok] :=
  ⟨_, List.append_assoc _ _ _⟩

end Adapter

/-! ## §3. Responses, one more or one longer. -/

theorem beforeOpening_snoc (rs : List Response) (r : Response) :
    beforeOpening (rs ++ [r])
      = if rs.any Response.opens then beforeOpening rs
        else if r.opens then rs else rs ++ [r] := by
  induction rs with
  | nil => cases h : r.opens <;> simp [beforeOpening, h]
  | cons x rs ih =>
    unfold beforeOpening at ih ⊢
    rw [List.cons_append, List.takeWhile_cons, List.takeWhile_cons, ih, List.any_cons]
    cases hx : x.opens with
    | true => simp
    | false =>
        cases rs.any Response.opens with
        | true => simp
        | false => cases r.opens <;> simp

@[simp] theorem bodies_snoc (rs : List Response) (r : Response) :
    bodies (rs ++ [r]) = bodies rs ++ r.body := by
  simp [bodies]

/-- A last response that opens nothing more and adds nothing to the bodies. -/
theorem bodies_beforeOpening_congr (rs : List Response) {r r' : Response} (hbody : r.body = r'.body)
    (hopens : r.opens = r'.opens) :
    bodies (beforeOpening (rs ++ [r])) = bodies (beforeOpening (rs ++ [r'])) := by
  rw [beforeOpening_snoc, beforeOpening_snoc, hopens]
  split
  · rfl
  · split
    · rfl
    · rw [bodies_snoc, bodies_snoc, hbody]

/-- So far the adapter and the responses agree. -/
structure Follows (queue : QueueAnswers) (a : Adapter) (s : List Response × Response) : Prop where
  status : a.conn.status = s.2.status
  opened : a.conn.opened = s.2.opens
  /-- The body does not begin before the headers end. -/
  unended : s.2.ended = false → s.2.body = []
  parser : (a.conn.parser, a.watched)
    = SSEParser.reset.feed (bodies (s.1 ++ [s.2])) watching ⟨queue.message, 0, false⟩
  opens : a.trace.countP Effect.opens = (s.1 ++ [s.2]).countP Response.opens
  before : (Adapter.beforeOpen a.trace).any Effect.delivers = false
    ↔ Quiet (bodies (beforeOpening (s.1 ++ [s.2])))

namespace Follows

variable {queue : QueueAnswers} {a : Adapter} {s : List Response × Response}

/-- Everything delivered comes from the bodies. -/
theorem quiet_iff (h : Follows queue a s) :
    a.trace.any Effect.delivers = false ↔ Quiet (bodies (s.1 ++ [s.2])) := by
  rw [← seen_iff _ queue.message 0, ← h.parser]
  rfl

theorem any_opens (h : Follows queue a s) :
    a.trace.any Effect.opens = (s.1 ++ [s.2]).any Response.opens := by
  have hcount := h.opens
  rw [Bool.eq_iff_iff, List.any_eq_true, List.any_eq_true, ← List.countP_pos_iff,
    ← List.countP_pos_iff, hcount]

theorem start (conn : SSEDesktopConnection) (queue : QueueAnswers) :
    Follows queue (Adapter.start conn queue) ([], {}) where
  status := rfl
  opened := rfl
  unended _ := rfl
  parser := rfl
  opens := rfl
  before := by
    have hquiet := seen_iff [] queue.message 0
    exact hquiet

/-- A status line begins a response. -/
theorem statusLine (h : Follows queue a s) (status : Int) :
    Follows queue { a with conn := { a.conn with status := status, opened := false } }
      (s.1 ++ [s.2], { status := status }) where
  status := rfl
  opened := by simp [Response.opens]
  unended _ := rfl
  parser := by
    rw [bodies_snoc, List.append_nil]
    exact h.parser
  opens := by
    rw [List.countP_append, ← h.opens]
    simp [Response.opens]
  before := by
    have hsame : bodies (beforeOpening ((s.1 ++ [s.2]) ++ [{ status := status }]))
        = bodies (beforeOpening (s.1 ++ [s.2])) := by
      rw [beforeOpening_snoc (s.1 ++ [s.2])]
      split
      · rfl
      · next hany =>
          have hnone : beforeOpening (s.1 ++ [s.2]) = s.1 ++ [s.2] := by
            apply List.takeWhile_eq_self_iff.mpr
            intro r hr
            rw [Bool.not_eq_true', ← Bool.not_eq_true]
            exact fun hopen => hany (List.any_eq_true.mpr ⟨r, hr, hopen⟩)
          rw [if_neg (by simp [Response.opens]), bodies_snoc, hnone, List.append_nil]
    rw [hsame]
    exact h.before

/-- The connection is opened: the response had nothing but headers so far. -/
theorem openConnection (h : Follows queue a s) (hacc : accepted s.2.status)
    (hopened : s.2.opens = false) :
    Follows queue a.openConnection (s.1, { s.2 with ended := true }) := by
  have hended : s.2.ended = false := by
    unfold Response.opens at hopened
    simpa [hacc] using hopened
  have hbody : s.2.body = [] := h.unended hended
  have hnow : Response.opens { s.2 with ended := true } = true := by
    simp [Response.opens, hacc]
  obtain ⟨ok, htrace⟩ := a.openConnection_trace
  refine ⟨h.status, hnow.symm, (fun hend => by cases hend), ?_, ?_, ?_⟩
  · have hwatched : a.openConnection.watched = a.watched := by
      simp [Adapter.watched, htrace, Effect.delivers, openEvent]
      rfl
    have hparser : a.openConnection.conn.parser = a.conn.parser := rfl
    rw [hwatched, hparser, h.parser, bodies_snoc, bodies_snoc]
  · have hcount := h.opens
    rw [List.countP_append] at hcount
    rw [htrace, List.countP_append, List.countP_append, hcount]
    simp [hnow, hopened, Effect.opens, openEvent]
  · have hany := h.any_opens
    have hbefore := h.before
    rw [beforeOpening_snoc, hopened] at hbefore
    rw [List.any_append, List.any_cons, hopened] at hany
    rw [htrace, beforeOpening_snoc, hnow]
    cases hs : s.1.any Response.opens with
    | true =>
        -- an earlier response was opened already
        rw [hs] at hany hbefore
        rw [Adapter.beforeOpen_append (by simpa using hany)]
        exact hbefore
    | false =>
        rw [hs] at hany hbefore
        have hnone : a.trace.any Effect.opens = false := by simpa using hany
        have hsplit : Adapter.beforeOpen (a.trace ++ [.setConnected a.conn.handle true,
            .push (openEvent a.conn.handle a.conn.status) ok])
            = a.trace ++ [.setConnected a.conn.handle true] := by
          have hall := List.any_eq_false.mp hnone
          unfold Adapter.beforeOpen
          rw [List.takeWhile_append_of_pos (by simpa using hall)]
          rfl
        rw [Adapter.beforeOpen_of_none hnone] at hbefore
        rw [hsplit]
        simpa [hbody, Effect.delivers] using hbefore

/-- The headers of a response are over. -/
theorem openIfAccepted (h : Follows queue a s) :
    Follows queue a.openIfAccepted (s.1, { s.2 with ended := true }) := by
  unfold Adapter.openIfAccepted
  rw [h.opened, h.status]
  by_cases hopens : (!s.2.opens && decide (accepted s.2.status)) = true
  · rw [if_pos hopens]
    obtain ⟨hopened, hacc⟩ := Bool.and_eq_true_iff.mp hopens
    exact h.openConnection (of_decide_eq_true hacc) (by simpa using hopened)
  · -- nothing is opened: it was already, or the status is refused
    rw [if_neg hopens]
    have hsame : Response.opens { s.2 with ended := true } = s.2.opens := by
      unfold Response.opens at hopens ⊢
      cases hacc : decide (accepted s.2.status) with
      | false => rfl
      | true =>
          rw [hacc] at hopens
          cases hend : s.2.ended with
          | true => rfl
          | false =>
              rw [hend] at hopens
              exact absurd rfl hopens
    have hbodies : bodies (beforeOpening (s.1 ++ [{ s.2 with ended := true }]))
        = bodies (beforeOpening (s.1 ++ [s.2])) := bodies_beforeOpening_congr s.1 rfl hsame
    refine ⟨h.status, h.opened.trans hsame.symm, (fun hend => by cases hend), ?_, ?_, ?_⟩
    · rw [h.parser, bodies_snoc, bodies_snoc]
    · rw [h.opens, List.countP_append, List.countP_append, List.countP_singleton,
        List.countP_singleton, hsame]
    · rw [h.before, hbodies]

/-- A part of the body. -/
theorem feed (h : Follows queue a s) (hended : s.2.ended = true) (chunk : Bytes) :
    Follows queue (a.feed chunk) (s.1, { s.2 with body := s.2.body ++ chunk }) := by
  have hopens : Response.opens { s.2 with body := s.2.body ++ chunk } = s.2.opens := rfl
  have hkept := a.feed_opening chunk
  unfold Adapter.opening at hkept
  rw [Prod.mk.injEq, Prod.mk.injEq] at hkept
  obtain ⟨hstatus, hopened, hpushes⟩ := hkept
  have hcount : (a.feed chunk).trace.countP Effect.opens = a.trace.countP Effect.opens := by
    rw [← Adapter.openPushes_length, hpushes, Adapter.openPushes_length]
  have hparser : ((a.feed chunk).conn.parser, (a.feed chunk).watched)
      = SSEParser.reset.feed (bodies (s.1 ++ [{ s.2 with body := s.2.body ++ chunk }])) watching
          ⟨queue.message, 0, false⟩ := by
    have hsplit : bodies (s.1 ++ [{ s.2 with body := s.2.body ++ chunk }])
        = bodies (s.1 ++ [s.2]) ++ chunk := by
      rw [bodies_snoc, bodies_snoc, List.append_assoc]
    rw [Adapter.feed_watched, hsplit, SSEParser.feed_append, ← h.parser]
  refine ⟨hstatus.trans h.status, hopened.trans h.opened, ?_, hparser, ?_, ?_⟩
  · intro hend
    rw [show s.2.ended = false from hend] at hended
    cases hended
  · rw [hcount, h.opens, List.countP_append, List.countP_append, List.countP_singleton,
      List.countP_singleton, hopens]
  · have hany := h.any_opens
    cases hs : (s.1 ++ [s.2]).any Response.opens with
    | true =>
        -- the OPEN is behind us, and so are the bodies before it
        rw [hs] at hany
        obtain ⟨more, hmore⟩ := a.feed_extends chunk
        rw [← hmore, Adapter.beforeOpen_append hany, h.before]
        have hbodies : bodies (beforeOpening (s.1 ++ [{ s.2 with body := s.2.body ++ chunk }]))
            = bodies (beforeOpening (s.1 ++ [s.2])) := by
          rw [beforeOpening_snoc, beforeOpening_snoc, hopens]
          rw [List.any_append, List.any_cons, List.any_nil, Bool.or_false] at hs
          split
          · rfl
          · next hfirst =>
              rw [Bool.or_eq_true, or_iff_right hfirst] at hs
              rw [if_pos hs, if_pos hs]
        rw [hbodies]
    | false =>
        -- there is no OPEN yet, so this is about everything
        rw [hs] at hany
        have hnone : (a.feed chunk).trace.any Effect.opens = false := by
          rw [← Bool.not_eq_true, List.any_eq_true, ← List.countP_pos_iff, hcount,
            List.countP_pos_iff, ← List.any_eq_true, hany]
          simp
        rw [Adapter.beforeOpen_of_none hnone]
        have hall : beforeOpening (s.1 ++ [{ s.2 with body := s.2.body ++ chunk }])
            = s.1 ++ [{ s.2 with body := s.2.body ++ chunk }] := by
          rw [List.any_append, List.any_cons, List.any_nil, Bool.or_false,
            Bool.or_eq_false_iff] at hs
          rw [beforeOpening_snoc, hopens, hs.1, hs.2]
          rfl
        rw [hall, ← seen_iff _ queue.message 0, ← hparser]
        rfl

/-- **One delivery.** -/
theorem onDelivery (h : Follows queue a s) (d : Delivery) :
    Follows queue (a.onDelivery d) (receive s d) := by
  cases d with
  | header line =>
      show Follows queue (a.headerCallback line) (receive s (.header line))
      rw [Adapter.headerCallback_eq]
      simp only [receive]
      cases DefoldSSE.statusLine line with
      | some status => exact h.statusLine status
      | none =>
          cases isBlankLine line with
          | true => exact h.openIfAccepted
          | false => exact h
  | body chunk => exact h.openIfAccepted.feed rfl chunk

end Follows

/-- **Any order of deliveries.** -/
theorem follows_deliveries (conn : SSEDesktopConnection) (queue : QueueAnswers)
    (ds : List Delivery) :
    Follows queue (ds.foldl Adapter.onDelivery (Adapter.start conn queue))
      (ds.foldl receive ([], {})) := by
  induction ds using List.reverseRecOn with
  | nil => exact .start conn queue
  | append_singleton ds d ih =>
    rw [List.foldl_append, List.foldl_append]
    exact ih.onDelivery d

/-! ## §4. When the events are in order. -/

/-- One response at most opens the connection; the bodies before it are quiet,
and all of them if the status is refused in the end. -/
structure Orderly (rs : List Response) (status : Int) : Prop where
  oneOpens : rs.countP Response.opens ≤ 1
  quietBefore : Quiet (bodies (beforeOpening rs))
  refused : ¬accepted status → Quiet (bodies rs)

theorem delivers_nothing_iff (trace : List Effect) :
    (∀ e ∈ trace, e.delivers = false) ↔ trace.any Effect.delivers = false := by
  simp

/-- **WHEN THE EVENTS ARE IN ORDER.** -/
theorem orderedAttempt_iff (conn : SSEDesktopConnection) (queue : QueueAnswers) (s : StopFlag)
    (ds : List Delivery) (responseCode : Int) :
    (Adapter.perform conn queue s ds responseCode).OrderedAttempt
      ↔ Orderly (responses (heard s ds)) (finalStatus (responses (heard s ds)) responseCode) := by
  have hfollows := follows_deliveries conn queue (heard s ds)
  rw [← Adapter.transfer_heard] at hfollows
  unfold responses
  have hlast : ∀ x : List Response × Response,
      finalStatus (x.1 ++ [x.2]) responseCode
        = if responseCode > 0 then responseCode else x.2.status := by
    intro x
    simp [finalStatus]
  have htrace : (Adapter.perform conn queue s ds responseCode).trace
      = ((Adapter.start conn queue).transfer s ds).trace := by
    unfold Adapter.perform
    simp only
    split
    · rfl
    · rfl
  have hstatus : (Adapter.perform conn queue s ds responseCode).conn.status
      = if responseCode > 0 then responseCode
        else ((Adapter.start conn queue).transfer s ds).conn.status := by
    unfold Adapter.perform
    simp only
    split
    · rfl
    · rfl
  rw [hlast, ← hfollows.status]
  constructor
  · intro h
    refine ⟨?_, ?_, ?_⟩
    · rw [← hfollows.opens, ← Adapter.openPushes_length, ← htrace]
      exact h.oneOpen
    · rw [← hfollows.before, ← delivers_nothing_iff, ← htrace]
      exact h.nothingBefore
    · intro hrefused
      rw [← hfollows.quiet_iff, ← delivers_nothing_iff, ← htrace]
      exact h.refused (by rw [hstatus]; exact hrefused)
  · intro h
    refine ⟨?_, ?_, ?_⟩
    · rw [htrace, Adapter.openPushes_length, hfollows.opens]
      exact h.oneOpens
    · rw [htrace, delivers_nothing_iff, hfollows.before]
      exact h.quietBefore
    · intro hrefused
      rw [htrace, delivers_nothing_iff, hfollows.quiet_iff]
      exact h.refused (by rw [← hstatus]; exact hrefused)

/-- The body of a refused response is fed to the parser all the same: a MESSAGE
without an OPEN, in an attempt that ends with 404. -/
theorem refused_body_is_delivered :
    ¬∀ (conn : SSEDesktopConnection) (queue : QueueAnswers) (s : StopFlag) (ds : List Delivery)
      (responseCode : Int), (Adapter.perform conn queue s ds responseCode).OrderedAttempt := by
  intro h
  have hordered := h {} ⟨fun _ => true, fun _ => true⟩ {}
    [.header (ascii "HTTP/1.1 404 Not Found" ++ [CR, LF]), .header [CR, LF],
      .body (ascii "data: x" ++ [LF, LF])] 404
  have hnothing := (delivers_nothing_iff _).mp (hordered.refused (by decide +kernel))
  exact absurd hnothing (by decide +kernel)

end DefoldSSE
