import DefoldSSE.Parser.Bounds
import DefoldSSE.Parser.Serialise
import DefoldSSE.Core.Terminal
import DefoldSSE.Core.Shutdown
import DefoldSSE.Core.FailedConnect
import DefoldSSE.Core.IsConnected
import DefoldSSE.Desktop.Payload
import DefoldSSE.Desktop.EventOrder
import DefoldSSE.Desktop.Backoff
import DefoldSSE.Desktop.Reaping
import DefoldSSE.Desktop.RetryDelay
import DefoldSSE.Pool.UrlParts
import DefoldSSE.Html5.HeadersJson
import DefoldSSE.Html5.EndOfStream
import DefoldSSE.Pool.Injection
import DefoldSSE.Pool.Reconnect
import DefoldSSE.Pool.Decoding
import DefoldSSE.Pool.Segmentation
import DefoldSSE.Pool.Silence
import DefoldSSE.Pool.UseAfterClose
import DefoldSSE.Pool.Ports
import DefoldSSE.Pool.TransferEncoding
import DefoldSSE.Pool.Sending
import DefoldSSE.Android.AttemptProtocol
import DefoldSSE.Android.Payload
import DefoldSSE.Android.LineCap
import DefoldSSE.Agreement
import DefoldSSE.RetryFields
import DefoldSSE.Desktop.ServerLog
import DefoldSSE.Desktop.CurlAttempt
import DefoldSSE.Desktop.WinHttpRun
import DefoldSSE.Desktop.WinHttpHandles
import DefoldSSE.Backends
import DefoldSSE.Pool.Redelivery
import DefoldSSE.Pool.Protocol
