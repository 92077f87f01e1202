import CefBridge.Library.Trimming
import CefBridge.Library.LineText
import CefBridge.Library.Decimal
import CefBridge.Library.EditScript
import CefBridge.Library.ScriptLaws
import CefBridge.Library.KeyedStore
import CefBridge.Library.Terminated
import CefBridge.Library.Utf16
import CefBridge.Library.Runs
import CefBridge.Library.Substring
import CefBridge.Library.RefCount
import CefBridge.Library.Latest
import CefBridge.Library.SortedMap
import CefBridge.Library.Counter
import CefBridge.Library.Feed
import CefBridge.Library.Streaming
import CefBridge.Library.Source
import CefBridge.Patcher.Runtime
import CefBridge.Patcher.Patch
import CefBridge.Patcher.Reader
import CefBridge.Patcher.Reading
import CefBridge.Patcher.Stored
import CefBridge.Patcher.Apply
import CefBridge.Patcher.Passes
import CefBridge.Patcher.Preservation
import CefBridge.Patcher.Completion
import CefBridge.Patcher.Upstream
import CefBridge.Patcher.Extraction
import CefBridge.Patcher.Annotated
import CefBridge.Patcher.Builder
import CefBridge.Patcher.Instructions
import CefBridge.Patcher.Acceptance
import CefBridge.Patcher.Retarget
import CefBridge.Patcher.Applying
import CefBridge.Patcher.Workflow
import CefBridge.Native.MethodArgs
import CefBridge.Native.Readers
import CefBridge.Native.Results
import CefBridge.Native.Integers
import CefBridge.Native.Routing
import CefBridge.Native.References
import CefBridge.Native.Whitelist
import CefBridge.Native.Visitors
import CefBridge.Managed.ProcessKind
import CefBridge.Managed.Browser
import CefBridge.Managed.Registry
import CefBridge.Managed.Disposal
import CefBridge.Managed.Listing
import CefBridge.Managed.Readiness
import CefBridge.Managed.Closing
import CefBridge.Router.InfoMap
import CefBridge.Router.Messages
import CefBridge.Router.RendererSide
import CefBridge.Router.Requests
import CefBridge.Router.BrowserSide
import CefBridge.Router.Queries
import CefBridge.Router.System
import CefBridge.Router.Handling
import CefBridge.Router.Agreement
import CefBridge.Router.JsHandler
import CefBridge.Resources.Manager
import CefBridge.Resources.Requests
import CefBridge.Resources.Removal
import CefBridge.Resources.Life
import CefBridge.Responses.Filter
import CefBridge.Responses.Stream
