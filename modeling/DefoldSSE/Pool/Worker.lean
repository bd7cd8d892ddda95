/-
  DefoldSSE.Pool.Worker — an attempt of the connection pool, and the worker that
  repeats it.

  The worker learns from an attempt one thing, whether it succeeded: it reports
  an error exactly when `SSEDesktop_PerformOnce` returned false.
-/
import DefoldSSE.Pool.Request
import DefoldSSE.Pool.Response

namespace DefoldSSE

open CLib

/-! ## §1. Sending. -/

/-- One call of `SSEDM_SendRaw`. -/
inductive Send where
  /-- `RESULT_OK` with `sent_bytes`; if none were sent, the results of the
  `Select` calls that follow. -/
  | sent (count : Int) (selects : List SocketResult)
  /-- It would block; the results of the `Select` calls that follow. -/
  | again (selects : List SocketResult)
  /-- Any other result. -/
  | failed (code : Nat)
  deriving DecidableEq, Repr

section Worker

-- `dmSocket::ResultToString`
variable (resultToString : SocketResult → String)

/-- The loop of `SSEDM_SendAll`, with the bytes the socket has taken so far. -/
def sendLoop (s : StopFlag) (handed data : Bytes) (remaining : Int) :
    List Send → Option (Option String × Bytes × StopFlag)
  | [] =>
      if remaining ≤ 0 then some (none, handed, s)
      else if s.raised then some (none, handed, s.next)
      else none
  | send :: sends =>
      if remaining ≤ 0 then some (none, handed, s)
      else if s.raised then some (none, handed, s.next)
      else
        match send with
        | .failed code =>
            some (some ("socket send failed: " ++ resultToString (.failure code)), handed, s.next)
        | .again selects =>
            match waitForSocket s.next selects with
            | none => none
            | some (.ok, s) => sendLoop s handed data remaining sends
            | some (result, s) =>
                some (some ("socket send wait failed: " ++ resultToString result), handed, s)
        | .sent count selects =>
            if count ≤ 0 then
              match waitForSocket s.next selects with
              | none => none
              | some (.ok, s) => sendLoop s handed data remaining sends
              | some (result, s) =>
                  some (some ("socket send wait failed: " ++ resultToString result), handed, s)
            else
              sendLoop s.next (handed ++ data.take count.toNat) (data.drop count.toNat)
                (remaining - count) sends

/-- `SSEDM_SendAll`.  The size goes into an `int`. -/
def sendAll (s : StopFlag) (request : Bytes) (sends : List Send) :
    Option (Option String × Bytes × StopFlag) :=
  sendLoop resultToString s [] request (toInt32 request.length) sends

/-! ## §2. An attempt. -/

/-- What the pool, the sockets and the queue answer during an attempt. -/
structure Network where
  /-- The connection pool exists. -/
  pool : Bool := true
  /-- The socket result of a `Dial` that failed. -/
  dial : Option SocketResult := none
  sends : List Send
  receives : List Receive
  queue : QueueAnswers

/-- `SSEDesktop_PerformOnce`: the error it returns false with, if any. -/
def performOnce (s : StopFlag) (conn : SSEDesktopConnection) (net : Network) :
    Option (Option String × Adapter × StopFlag) :=
  if !net.pool then
    some (some "Defold connection pool is not initialized", ⟨conn, net.queue, []⟩, s)
  else
    match parseUrl conn.url with
    | .error error => some (some error, ⟨conn, net.queue, []⟩, s)
    | .ok url =>
        let a := Adapter.start conn net.queue
        match net.dial with
        | some result =>
            some (some ("failed to open SSE connection: " ++ resultToString result), a, s)
        | none =>
            if s.raised then some (none, a, s.next)
            else
              match buildRequest a.conn url with
              | .error error => some (some error, a, s.next)
              | .ok request =>
                  match sendAll resultToString s.next request net.sends with
                  | none => none
                  | some (some error, _, s) => some (some error, a, s)
                  | some (none, _, s) =>
                      match readResponse resultToString s {} a net.receives with
                      | none => none
                      | some (error, a, s) =>
                          if s.raised then some (none, a, s.next) else some (error, a, s.next)

/-! ## §3. The worker. -/

/-- `SSEDesktop_SleepRetry`: the milliseconds of its sleeps. -/
def sleepRetry (s : StopFlag) (remaining : Int) : List Int × StopFlag :=
  if remaining > 0 then
    if s.raised then ([], s.next)
    else
      let step := if remaining > 100 then 100 else remaining
      let rest := sleepRetry s.next (remaining - step)
      (step :: rest.1, rest.2)
  else ([], s)
termination_by remaining.toNat

/-- A pass of the loop of `SSEDesktop_Worker`: what it did, and whether the loop
goes on. -/
def workerPass (s : StopFlag) (conn : SSEDesktopConnection) (net : Network) :
    Option (Adapter × StopFlag × Bool) :=
  match performOnce resultToString s conn net with
  | none => none
  | some (error, a, s) =>
      let a := a.setConnected false
      if s.raised then some (a, s.next, false)
      else
        let a :=
          match error with
          | none => a
          | some error =>
              a.enqueueError (some (.lit error)) a.conn.status a.conn.reconnect a.conn.retryMs
        if a.conn.reconnect then some (a, (sleepRetry s.next a.conn.retryMs).2, true)
        else some (a, s.next, false)

/-- `SSEDesktop_Worker`: everything it did; `last` answers the final push. -/
def worker (last : QueueAnswers) (s : StopFlag) (conn : SSEDesktopConnection) :
    List Network → Option (List Effect × StopFlag)
  | [] => if s.raised then some ([], s.next.next) else none
  | net :: nets =>
      if s.raised then some ([], s.next.next)
      else
        match workerPass resultToString s.next conn net with
        | none => none
        | some (a, s, true) =>
            (worker last s a.conn nets).map (fun r => (a.trace ++ r.1, r.2))
        | some (a, s, false) =>
            if s.raised then some (a.trace, s.next)
            else some (a.trace ++ (Adapter.enqueueClosed ⟨a.conn, last, []⟩).trace, s.next)

end Worker

end DefoldSSE
