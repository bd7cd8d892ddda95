/-
  DefoldSSE.Agreement — the three parsers agree on ASCII lines.

  Each parser starts a new attempt, with whatever its connection or client held
  before, and reads the same lines; the queue gives the same answers.  Line by
  line they report the same messages, ids, retry values and errors.
-/
import DefoldSSE.Desktop.Lines
import DefoldSSE.Html5.Lines

namespace DefoldSSE

open CLib EventStream

/-- What `ProcessLine` and the desktop callbacks report for each line. -/
def desktopReports (conn : SSEDesktopConnection) (queue : QueueAnswers) (lines : List Bytes) :
    List (List StreamReport) :=
  outputs (grown Adapter.lineStep (fun s => s.2.reports)) (.reset, .start conn queue) lines

/-- What the Java parser reports for each line. -/
def androidReports (handle : Int) (reconnect : Bool) (retryMs : Int) (lastEventId : Utf16)
    (answers : Nat → Bool) (lines : List Bytes) : List (List StreamReport) :=
  outputs
    (grown (fun s line => SseStream.processLine s (widen line))
      (fun s => s.calls.filterMap (NativeCall.report handle)))
    (.start reconnect retryMs lastEventId answers) lines

/-- What the HTML5 client reports for each line. -/
def html5Reports (stringToUTF8 : Utf16 → Bytes) (client : Html5Client) (answers : Nat → Bool)
    (lines : List Bytes) : List (List StreamReport) :=
  outputs
    (grown (fun c line => Html5Client.processLine c (widen line))
      (fun c => c.calls.filterMap (Html5Call.report stringToUTF8)))
    { client with answers := answers }.beginAttempt lines

/-- **The adapters' parsers agree**: the reports of the desktop, Android and
HTML5 parsers are the same, line by line. -/
theorem parsers_agree {stringToUTF8 : Utf16 → Bytes}
    (hutf8 : ∀ text : List Char, stringToUTF8 (utf16 text) = utf8 text)
    (conn : SSEDesktopConnection) (queue : QueueAnswers) (handle : Int) (reconnect : Bool)
    (retryMs : Int) (lastEventId : Utf16) (client : Html5Client) {lines : List Bytes}
    (hlines : ∀ line ∈ lines, AsciiText line) :
    androidReports handle reconnect retryMs lastEventId queue.message lines
        = desktopReports conn queue lines ∧
      html5Reports stringToUTF8 client queue.message lines = desktopReports conn queue lines := by
  have hdesktop : desktopReports conn queue lines
      = outputs (LineReader.readLine queue.message) {} lines := desktop_outputs conn queue hlines
  rw [hdesktop]
  exact ⟨android_outputs handle reconnect retryMs lastEventId queue.message hlines,
    html5_outputs hutf8 { client with answers := queue.message } hlines⟩

/-- An accepted message with an id, a delay below the minimum, and a message that
the queue refuses, with its id rolled back. -/
theorem parsers_agree_refused :
    let lines := ["id: 7", "data: a", "", "retry: 10", "id: 8", "data: b", ""].map ascii
    let queue : QueueAnswers := { message := fun n => n == 0, other := fun _ => true }
    androidReports 1 true 3000 [] queue.message lines = desktopReports {} queue lines ∧
      html5Reports (fun text => utf8 (utf16Chars text))
          { lastEventId := [], reconnect := true, retryMs := 3000, data := [], eventName := [],
            eventId := [], hasId := false, pendingLastEventId := none,
            pendingAtBlockStart := none, dropObserved := false, eventPoisoned := false,
            discardLine := false, answers := fun _ => true, calls := [] }
          queue.message lines
        = desktopReports {} queue lines := by
  intro lines queue
  have hlines : ∀ line ∈ lines, AsciiText line := by decide
  exact parsers_agree (fun text => by rw [utf16Chars_utf16]) {} queue 1 true 3000 [] _ hlines

/-- What all three report there. -/
example :
    outputs (LineReader.readLine (fun n => n == 0)) {}
        (["id: 7", "data: a", "", "retry: 10", "id: 8", "data: b", ""].map ascii)
      = [[], [],
        [.message (some (.lit "message")) (some (.lit "a")) (some (.lit "7")),
          .lastEventId (.lit "7")],
        [.retry 1000], [], [],
        [.message (some (.lit "message")) (some (.lit "b")) (some (.lit "8"))]] := by decide

end DefoldSSE
