/-
  DefoldSSE.Desktop.Curl — an attempt of the libcurl backend.

  libcurl calls back with header lines and body chunks, in whatever order the
  server's responses make of them: a redirect, an interim response or a proxy's
  answer each bring a status line of their own, and `SSEDesktop_HeaderCallback`
  starts over at each of them.

  `responses` is the same sequence read as what it is, one response after the
  other.
-/
import DefoldSSE.Desktop.Adapter

namespace DefoldSSE

open CLib

/-- A call libcurl makes during a transfer. -/
inductive Delivery where
  /-- `SSEDesktop_HeaderCallback`, with one header line. -/
  | header (line : Bytes)
  /-- `SSEDesktop_WriteCallback`. -/
  | body (chunk : Bytes)
  deriving DecidableEq

/-- The blank line that ends a header block. -/
def isBlankLine (line : Bytes) : Bool := line == [CR, LF] || line == [LF]

/-! ## §1. The callbacks. -/

namespace Adapter

/-- The test both callbacks make: a connection that is not open is opened once
its status is accepted. -/
def openIfAccepted (a : Adapter) : Adapter :=
  if !a.conn.opened && decide (accepted a.conn.status) then a.openConnection else a

/-- `SSEDesktop_HeaderCallback`, not stopped. -/
def headerCallback (a : Adapter) (line : Bytes) : Adapter :=
  if (ascii "HTTP/").isPrefixOf line then
    -- the line is copied into `char status_line[64]` first
    match scanStatus (CString.read (line.take 63)).bytes with
    | some status => { a with conn := { a.conn with status := status, opened := false } }
    | none => a
  else if isBlankLine line then a.openIfAccepted
  else a

/-- `SSEDesktop_WriteCallback`, not stopped. -/
def writeCallback (a : Adapter) (chunk : Bytes) : Adapter := a.openIfAccepted.feed chunk

/-- The callback for one delivery. -/
def onDelivery (a : Adapter) : Delivery → Adapter
  | .header line => a.headerCallback line
  | .body chunk => a.writeCallback chunk

/-- `curl_easy_perform`: each callback looks at the stop flag first, and libcurl
gives up once one of them finds it raised. -/
def transfer (s : StopFlag) (a : Adapter) : List Delivery → Adapter
  | [] => a
  | d :: ds => if s.raised then a else transfer s.next (a.onDelivery d) ds

/-- An attempt of `SSEDesktop_PerformOnce` up to the status it ends with;
`responseCode` is what libcurl reports afterwards. -/
def perform (conn : SSEDesktopConnection) (queue : QueueAnswers) (s : StopFlag)
    (ds : List Delivery) (responseCode : Int) : Adapter :=
  let a := (start conn queue).transfer s ds
  if responseCode > 0 then a.setStatus responseCode else a

end Adapter

/-! ## §2. The responses of a transfer. -/

/-- A status line and what followed it. -/
structure Response where
  status : Int := 0
  /-- Its headers are over: a blank line or a part of the body came. -/
  ended : Bool := false
  body : Bytes := []
  deriving DecidableEq

/-- The status a header line announces. -/
def statusLine (line : Bytes) : Option Int :=
  if (ascii "HTTP/").isPrefixOf line then scanStatus (CString.read (line.take 63)).bytes else none

/-- The responses that are over and the current one, after one more delivery. -/
def receive (s : List Response × Response) : Delivery → List Response × Response
  | .header line =>
      match statusLine line with
      | some status => (s.1 ++ [s.2], { status := status })
      | none => if isBlankLine line then (s.1, { s.2 with ended := true }) else s
  | .body chunk => (s.1, { s.2 with ended := true, body := s.2.body ++ chunk })

/-- The responses of a transfer.  What precedes the first status line counts as
a response of status 0. -/
def responses (ds : List Delivery) : List Response :=
  let s := ds.foldl receive ([], {})
  s.1 ++ [s.2]

/-- The deliveries that found the stop flag down. -/
def heard : StopFlag → List Delivery → List Delivery
  | _, [] => []
  | s, d :: ds => if s.raised then [] else d :: heard s.next ds

/-- The response gets the connection opened. -/
def Response.opens (r : Response) : Bool := decide (accepted r.status) && r.ended

/-- The bodies of successive responses. -/
def bodies (rs : List Response) : Bytes := rs.flatMap Response.body

/-- The responses before the first that opens the connection. -/
def beforeOpening (rs : List Response) : List Response := rs.takeWhile (fun r => !r.opens)

/-- The status an attempt ends with. -/
def finalStatus (rs : List Response) (responseCode : Int) : Int :=
  if responseCode > 0 then responseCode else (rs.getLast?.map Response.status).getD 0

namespace Adapter

theorem transfer_heard (ds : List Delivery) :
    ∀ (s : StopFlag) (a : Adapter), a.transfer s ds = (heard s ds).foldl onDelivery a := by
  induction ds with
  | nil => intro s a; rfl
  | cons d ds ih =>
    intro s a
    rw [transfer, heard]
    by_cases hstop : s.raised = true
    · rw [if_pos hstop, if_pos hstop]
      rfl
    · rw [if_neg hstop, if_neg hstop, ih]
      rfl

/-- A header line does one of three things. -/
theorem headerCallback_eq (a : Adapter) (line : Bytes) :
    a.headerCallback line
      = match statusLine line with
        | some status => { a with conn := { a.conn with status := status, opened := false } }
        | none => if isBlankLine line then a.openIfAccepted else a := by
  unfold headerCallback statusLine
  by_cases hstatus : (ascii "HTTP/").isPrefixOf line = true
  · rw [if_pos hstatus, if_pos hstatus]
    cases scanStatus (CString.read (line.take 63)).bytes with
    | some status => rfl
    | none =>
        -- a line that starts with "HTTP/" is not blank
        have hblank : isBlankLine line = false := by
          apply Bool.eq_false_iff.mpr
          intro hblank
          rcases Bool.or_eq_true_iff.mp hblank with h | h
          · rw [eq_of_beq h] at hstatus
            exact absurd hstatus (by decide)
          · rw [eq_of_beq h] at hstatus
            exact absurd hstatus (by decide)
        rw [hblank]
        rfl
  · rw [if_neg hstatus, if_neg hstatus]

end Adapter

end DefoldSSE
