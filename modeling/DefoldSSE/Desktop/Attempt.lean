/-
  DefoldSSE.Desktop.Attempt — the adapter does what `outcomes` says.

  The parser is known to make the calls of the stream's blocks (`feed_stream`);
  what is left is what the adapter's callbacks make of those calls.  `Does`
  says it for a stretch of the attempt; stretches compose, so one lemma a call,
  one a block and one induction over the blocks give `feed_does`.
-/
import DefoldSSE.Desktop.Outcomes

namespace DefoldSSE

open CLib EventStream EventStream.Block

namespace Adapter

/-! ## §1. Reading histories. -/

@[simp] theorem parserEvents_append (s t : List Effect) :
    parserEvents (s ++ t) = parserEvents s ++ parserEvents t := List.filterMap_append

@[simp] theorem messagePushes_append (s t : List Effect) :
    messagePushes (s ++ t) = messagePushes s ++ messagePushes t := List.filterMap_append

@[simp] theorem stored_append (s t : List Effect) : stored (s ++ t) = stored s ++ stored t :=
  List.filterMap_append

section Entries

variable (t : List Effect) (e : SSEEvent) (ok : Bool) (c : ParserCall) (h : Int) (id : CString)

@[simp] theorem parserEvents_nil : parserEvents [] = [] := rfl
@[simp] theorem parserEvents_event (ev : SSEParsedEvent) :
    parserEvents (.call (.event ev) :: t) = ev :: parserEvents t := rfl
@[simp] theorem parserEvents_retry (ms : Int) :
    parserEvents (.call (.retry ms) :: t) = parserEvents t := rfl
@[simp] theorem parserEvents_id (v : Bytes) :
    parserEvents (.call (.id v) :: t) = parserEvents t := rfl
@[simp] theorem parserEvents_error (message : String) :
    parserEvents (.call (.error message) :: t) = parserEvents t := rfl
@[simp] theorem parserEvents_push : parserEvents (.push e ok :: t) = parserEvents t := rfl
@[simp] theorem parserEvents_setConnected :
    parserEvents (.setConnected h ok :: t) = parserEvents t := rfl
@[simp] theorem parserEvents_setLastEventId :
    parserEvents (.setLastEventId h id :: t) = parserEvents t := rfl
@[simp] theorem parserEvents_storeLastEventId :
    parserEvents (.storeLastEventId id :: t) = parserEvents t := rfl

@[simp] theorem messagePushes_nil : messagePushes [] = [] := rfl
@[simp] theorem messagePushes_call : messagePushes (.call c :: t) = messagePushes t := rfl
@[simp] theorem messagePushes_setConnected :
    messagePushes (.setConnected h ok :: t) = messagePushes t := rfl
@[simp] theorem messagePushes_setLastEventId :
    messagePushes (.setLastEventId h id :: t) = messagePushes t := rfl
@[simp] theorem messagePushes_storeLastEventId :
    messagePushes (.storeLastEventId id :: t) = messagePushes t := rfl

@[simp] theorem messagePushes_push :
    messagePushes (.push e ok :: t)
      = if e.type = .eventMessage then (e, ok) :: messagePushes t else messagePushes t := by
  by_cases h : e.type = .eventMessage <;> simp [messagePushes, h]

@[simp] theorem stored_nil : stored [] = [] := rfl
@[simp] theorem stored_call : stored (.call c :: t) = stored t := rfl
@[simp] theorem stored_push : stored (.push e ok :: t) = stored t := rfl
@[simp] theorem stored_setConnected : stored (.setConnected h ok :: t) = stored t := rfl
@[simp] theorem stored_setLastEventId : stored (.setLastEventId h id :: t) = stored t := rfl
@[simp] theorem stored_storeLastEventId :
    stored (.storeLastEventId id :: t) = id :: stored t := rfl

end Entries

/-! ## §2. A stretch of the attempt. -/

/-- The event a message is queued as, with the queue's answer. -/
def pushOf (handle : Int) (m : SSEParsedEvent × Bool) : SSEEvent × Bool :=
  (messageEvent handle (some (.read m.1.event)) (some (.read m.1.data)) (some (.read m.1.id)),
    m.2)

/-- From `a` to `a'`, the adapter did what `os` says. -/
structure Does (a a' : Adapter) (os : List BlockOutcome) : Prop where
  handle : a'.conn.handle = a.conn.handle
  headers : a'.conn.headers = a.conn.headers
  queue : a'.queue = a.queue
  events : parserEvents a'.trace
    = parserEvents a.trace ++ (os.filterMap BlockOutcome.offered).map Prod.fst
  pushes : messagePushes a'.trace
    = messagePushes a.trace ++ (os.filterMap BlockOutcome.offered).map (pushOf a.conn.handle)
  stored : stored a'.trace
    = stored a.trace ++ (os.filterMap BlockOutcome.commit).map CString.read
  lastEventId : a'.conn.lastEventId
    = ((os.filterMap BlockOutcome.commit).map CString.read).getLast?.or a.conn.lastEventId

theorem Does.refl (a : Adapter) : Does a a [] where
  handle := rfl
  headers := rfl
  queue := rfl
  events := by simp
  pushes := by simp
  stored := by simp
  lastEventId := by simp

theorem Does.trans {a b c : Adapter} {os ps : List BlockOutcome} (h : Does a b os)
    (h' : Does b c ps) : Does a c (os ++ ps) where
  handle := h'.handle.trans h.handle
  headers := h'.headers.trans h.headers
  queue := h'.queue.trans h.queue
  events := by rw [h'.events, h.events]; simp
  pushes := by rw [h'.pushes, h.pushes, h.handle]; simp
  stored := by rw [h'.stored, h.stored]; simp
  lastEventId := by
    rw [h'.lastEventId, h.lastEventId, List.filterMap_append, List.map_append,
      List.getLast?_append, Option.or_assoc]

/-- A stretch that does nothing for any block. -/
theorem Does.append_nil {a b c : Adapter} {os : List BlockOutcome} (h : Does a b [])
    (h' : Does b c os) : Does a c os := h.trans h'

/-- The queue answers a block's message under its number. -/
theorem Does.count {a a' : Adapter} {os : List BlockOutcome} (h : Does a a' os) :
    (messagePushes a'.trace).length
      = (messagePushes a.trace).length + (os.filterMap BlockOutcome.offered).length := by
  rw [h.pushes, List.length_append, List.length_map]

/-! ## §3. One call. -/

theorem onParserError_does (a : Adapter) (message : String) :
    Does a (a.onParserError message) [] where
  handle := rfl
  headers := rfl
  queue := rfl
  events := by simp [onParserError, enqueueError, queuePush]
  pushes := by simp [onParserError, enqueueError, queuePush, errorEvent]
  stored := by simp [onParserError, enqueueError, queuePush]
  lastEventId := by simp [onParserError, enqueueError, queuePush]

theorem onParserRetry_does (a : Adapter) (retryMs : Int) :
    Does a (a.onParserRetry retryMs) [] where
  handle := rfl
  headers := rfl
  queue := rfl
  events := by simp [onParserRetry]
  pushes := by simp [onParserRetry]
  stored := by simp [onParserRetry]
  lastEventId := by simp [onParserRetry]

theorem onParserId_does (a : Adapter) (id : Bytes) :
    Does a (a.onParserId id) [⟨none, some id⟩] where
  handle := rfl
  headers := rfl
  queue := rfl
  events := by simp [onParserId, commitLastEventId]
  pushes := by simp [onParserId, commitLastEventId]
  stored := by simp [onParserId, commitLastEventId]
  lastEventId := by simp [onParserId, commitLastEventId]

/-- The event a parsed event is queued as. -/
def queued (a : Adapter) (event : SSEParsedEvent) : SSEEvent :=
  messageEvent a.conn.handle (some (.read event.event)) (some (.read event.data))
    (some (.read event.id))

/-- The adapter once it has pushed the event. -/
def pushed (a : Adapter) (event : SSEParsedEvent) (ok : Bool) : Adapter :=
  (a.log (.call (.event event))).log (.push (a.queued event) ok)

/-- The commit that comes with an event, if one comes. -/
def commitOffered (a : Adapter) : Option Bytes → Adapter
  | some id => a.commitLastEventId (.read id)
  | none => a

/-- `SSEDesktop_OnParserEvent` is a push, and a commit if it was accepted. -/
theorem onParserEvent_eq (a : Adapter) (event : SSEParsedEvent) :
    let ok := a.queue.message (messagePushes a.trace).length
    a.onParserEvent event
      = (ok, (a.pushed event ok).commitOffered (if ok then event.lastEventId else none)) := by
  intro ok
  have hok : (a.log (.call (.event event))).answer (a.queued event) = ok := by
    simp [answer, queued, messageEvent, ok]
  unfold queued at hok
  simp only [onParserEvent, enqueueMessage, queuePush, log_conn, hok]
  cases event.lastEventId with
  | none => cases ok <;> rfl
  | some id => cases ok <;> rfl

/-- The answer to the message, and its commit. -/
theorem onParserEvent_does (a : Adapter) (event : SSEParsedEvent) :
    let ok := a.queue.message (messagePushes a.trace).length
    (a.onParserEvent event).1 = ok
      ∧ Does a (a.onParserEvent event).2
          [⟨some (event, ok), if ok then event.lastEventId else none⟩] := by
  intro ok
  rw [onParserEvent_eq]
  refine ⟨rfl, ?_⟩
  show Does a ((a.pushed event ok).commitOffered (if ok then event.lastEventId else none)) _
  cases (if ok then event.lastEventId else none) with
  | none =>
      refine ⟨rfl, rfl, rfl, ?_, ?_, ?_, ?_⟩ <;>
        simp [commitOffered, pushed, queued, messageEvent, pushOf]
  | some id =>
      refine ⟨rfl, rfl, rfl, ?_, ?_, ?_, ?_⟩ <;>
        simp [commitOffered, pushed, queued, messageEvent, pushOf, commitLastEventId]

/-! ## §4. One block, then all of them. -/

theorem lineCall_does (before : Block) (l : BlockLine) (a : Adapter) :
    Does a (lineCall callbacks before a l) [] := by
  cases l with
  | oversize => exact onParserError_does a _
  | data v =>
      simp only [lineCall]
      split
      · exact onParserError_does a _
      · exact .refl a
  | retry v =>
      simp only [lineCall]
      split
      · exact onParserRetry_does a _
      · exact .refl a
  | event v => exact .refl a
  | id v => exact .refl a
  | ignored => exact .refl a

theorem lineCalls_does (b : Block) (a : Adapter) : Does a (lineCalls callbacks b a) [] := by
  induction b using List.reverseRecOn with
  | nil => exact .refl a
  | append_singleton b l ih =>
    rw [lineCalls_snoc]
    exact ih.append_nil (lineCall_does b l _)

/-- The end of a block does what `outcome` says. -/
theorem endBlock_does (r : Resume) (b : Block) (a : Adapter) :
    let o := outcome (a.queue.message (messagePushes a.trace).length) r b
    (endBlock callbacks r b a).1 = o.2 ∧ Does a (endBlock callbacks r b a).2 [o.1] := by
  unfold endBlock outcome
  cases hp : poisoned b with
  | true => exact ⟨rfl, .append_nil (.refl a) ⟨rfl, rfl, rfl, by simp, by simp, by simp, by simp⟩⟩
  | false =>
      simp only [Bool.false_eq_true, if_false]
      by_cases hd : dataValues b = []
      · rw [if_pos hd, if_pos hd]
        refine ⟨rfl, ?_⟩
        cases hid : ownId b with
        | none => exact ⟨rfl, rfl, rfl, by simp, by simp, by simp, by simp⟩
        | some v =>
            cases hr : r.dropObserved with
            | true => exact ⟨rfl, rfl, rfl, by simp, by simp, by simp, by simp⟩
            | false => exact onParserId_does a v
      · rw [if_neg hd, if_neg hd]
        have hcall : SSEParserCallbacks.callOnEvent callbacks a (message r b)
            = a.onParserEvent (message r b) := rfl
        obtain ⟨hans, hdoes⟩ := onParserEvent_does a (message r b)
        rw [hcall]
        generalize a.onParserEvent (message r b) = res at hans hdoes
        obtain ⟨ok, a'⟩ := res
        simp only at hans hdoes ⊢
        rw [← hans] at hdoes ⊢
        cases ok with
        | true => exact ⟨rfl, hdoes⟩
        | false => exact ⟨rfl, hdoes⟩

theorem runBlock_does (r : Resume) (b : Block) (a : Adapter) :
    let o := outcome (a.queue.message (messagePushes a.trace).length) r b
    (runBlock callbacks (r, a) b).1 = o.2 ∧ Does a (runBlock callbacks (r, a) b).2 [o.1] := by
  have hlines := lineCalls_does b a
  have hend := endBlock_does r b (lineCalls callbacks b a)
  rw [hlines.queue, hlines.count] at hend
  exact ⟨hend.1, hlines.append_nil hend.2⟩

/-- A block counts as a message exactly when it offers one. -/
theorem nextMessage_eq (answer : Bool) (n : Nat) (r : Resume) (b : Block) :
    n + ([(outcome answer r b).1].filterMap BlockOutcome.offered).length = nextMessage n b := by
  unfold outcome nextMessage carriesData
  cases hp : poisoned b with
  | true => simp
  | false =>
      by_cases hd : dataValues b = []
      · simp [hd]
      · cases answer <;> simp [hd]

theorem runBlocks_does (bs : List Block) :
    ∀ (r : Resume) (a : Adapter),
      Does a (runBlocks callbacks bs (r, a)).2
        (outcomes a.queue.message (messagePushes a.trace).length r bs) := by
  induction bs with
  | nil => intro r a; exact .refl a
  | cons b bs ih =>
    intro r a
    obtain ⟨hr, hb⟩ := runBlock_does r b a
    have hsplit : runBlocks callbacks (b :: bs) (r, a)
        = runBlocks callbacks bs ((outcome (a.queue.message (messagePushes a.trace).length) r b).2,
            (runBlock callbacks (r, a) b).2) := by
      rw [← hr]
      rfl
    have hrest := ih (outcome (a.queue.message (messagePushes a.trace).length) r b).2
      (runBlock callbacks (r, a) b).2
    rw [hb.queue, hb.count, nextMessage_eq] at hrest
    rw [hsplit]
    exact hb.trans hrest

/-- **An attempt does what its blocks say**, whatever the events in between
were answered. -/
theorem feed_does (conn : SSEDesktopConnection) (queue : QueueAnswers) (bytes : Bytes) :
    Does (start conn queue) ((start conn queue).feed bytes)
      (outcomes queue.message 0 .init (blocks bytes)) := by
  have hstream : ((start conn queue).conn.parser.feed bytes callbacks (start conn queue)).2
      = lineCalls callbacks (pendingBlock bytes)
          (runBlocks callbacks (blocks bytes) (.init, start conn queue)).2 :=
    SSEParser.feed_stream callbacks bytes (start conn queue)
  have hdoes : Does (start conn queue)
      ((start conn queue).conn.parser.feed bytes callbacks (start conn queue)).2
      (outcomes queue.message 0 .init (blocks bytes)) := by
    rw [hstream]
    have hblocks := runBlocks_does (blocks bytes) .init (start conn queue)
    have htail := lineCalls_does (pendingBlock bytes)
      (runBlocks callbacks (blocks bytes) (.init, start conn queue)).2
    have hall := hblocks.trans htail
    rw [List.append_nil] at hall
    exact hall
  exact ⟨hdoes.handle, hdoes.headers, hdoes.queue, hdoes.events, hdoes.pushes, hdoes.stored, hdoes.lastEventId⟩

section Corollaries

variable (conn : SSEDesktopConnection) (queue : QueueAnswers) (bytes : Bytes)

/-- The parser's events are those the stream assembles. -/
theorem parserEvents_feed :
    parserEvents ((start conn queue).feed bytes).trace
      = (assembled queue.message bytes).map Prod.fst := by
  simpa [start, parserEvents, assembled] using (feed_does conn queue bytes).events

/-- The messages pushed are those the stream assembles. -/
theorem messagePushes_feed :
    messagePushes ((start conn queue).feed bytes).trace
      = (assembled queue.message bytes).map (pushOf conn.handle) := by
  simpa [start, messagePushes, assembled] using (feed_does conn queue bytes).pushes

/-- The values stored are those the stream commits. -/
theorem stored_feed :
    stored ((start conn queue).feed bytes).trace
      = (committed queue.message bytes).map CString.read := by
  simpa [start, stored, committed] using (feed_does conn queue bytes).stored

end Corollaries

/-! ## §5. Segmentation. -/

/-- Successive pieces of one attempt. -/
def feedAll (a : Adapter) (pieces : List Bytes) : Adapter := pieces.foldl feed a

/-- Another parser in the same connection. -/
def withParser (a : Adapter) (parser : SSEParser) : Adapter :=
  { a with conn := { a.conn with parser := parser } }

/-- No callback reads or writes `m_Parser`. -/
theorem callbacks_withParser (q : SSEParser) :
    SSEParser.CallbackMap callbacks callbacks (fun a => a.withParser q) where
  onEvent a event := by
    have hcall : ∀ a : Adapter,
        callbacks.callOnEvent a event = a.onParserEvent event := fun _ => rfl
    rw [hcall, hcall, onParserEvent_eq, onParserEvent_eq]
    have hqueue : (a.withParser q).queue.message (messagePushes (a.withParser q).trace).length
        = a.queue.message (messagePushes a.trace).length := rfl
    rw [hqueue]
    generalize a.queue.message (messagePushes a.trace).length = ok
    cases (if ok then event.lastEventId else none) with
    | none => rfl
    | some id => rfl
  onRetry _ _ := rfl
  onId _ _ := rfl
  onError _ _ := rfl

theorem feed_feed (a : Adapter) (x y : Bytes) : (a.feed x).feed y = a.feed (x ++ y) := by
  have hfeed : ∀ (a : Adapter) (bytes : Bytes), a.feed bytes
      = (a.conn.parser.feed bytes callbacks a).2.withParser
          (a.conn.parser.feed bytes callbacks a).1 := fun _ _ => rfl
  rw [hfeed a (x ++ y), SSEParser.feed_append, hfeed a x]
  generalize a.conn.parser.feed x callbacks a = s
  obtain ⟨p, a'⟩ := s
  rw [hfeed]
  simp only [show (a'.withParser p).conn.parser = p from rfl,
    SSEParser.feed_map (callbacks_withParser p)]
  rfl

@[simp] theorem feed_nil (a : Adapter) : a.feed [] = a := rfl

/-- **Segmentation does not matter to the adapter.** -/
theorem feedAll_eq (a : Adapter) (pieces : List Bytes) :
    a.feedAll pieces = a.feed pieces.flatten := by
  induction pieces generalizing a with
  | nil => rfl
  | cons piece pieces ih =>
    rw [List.flatten_cons, ← feed_feed, ← ih]
    rfl

/-! ## §6. What a stream does not touch. -/

/-- The status, whether the connection is open, and the OPENs pushed. -/
def opening (a : Adapter) : Int × Bool × List (SSEEvent × Bool) :=
  (a.conn.status, a.conn.opened, openPushes a.trace)

/-- No parser callback opens a connection or changes its status. -/
theorem callbacks_keep_opening (o : Int × Bool × List (SSEEvent × Bool)) :
    SSEParser.Preserves callbacks (fun a => a.opening = o) where
  onEvent a event h := by
    have hcall : callbacks.callOnEvent a event = a.onParserEvent event := rfl
    rw [hcall, ← h, onParserEvent_eq]
    generalize a.queue.message (messagePushes a.trace).length = ok
    show opening ((a.pushed event ok).commitOffered (if ok then event.lastEventId else none)) = _
    cases (if ok then event.lastEventId else none) with
    | none => simp [opening, openPushes, commitOffered, pushed, queued, messageEvent]
    | some id =>
        simp [opening, openPushes, commitOffered, pushed, queued, messageEvent, commitLastEventId]
  onRetry a ms h := by
    rw [← h]
    show opening (a.onParserRetry ms) = _
    simp [opening, openPushes, onParserRetry]
  onId a id h := by
    rw [← h]
    show opening (a.onParserId id) = _
    simp [opening, openPushes, onParserId, commitLastEventId]
  onError a message h := by
    rw [← h]
    show opening (a.onParserError message) = _
    simp [opening, openPushes, onParserError, enqueueError, queuePush, errorEvent]

/-- **Nor does a stream.** -/
theorem feed_opening (a : Adapter) (bytes : Bytes) : (a.feed bytes).opening = a.opening :=
  SSEParser.feed_preserves (callbacks_keep_opening a.opening) bytes a.conn.parser rfl

end Adapter

end DefoldSSE
