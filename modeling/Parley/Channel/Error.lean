/-
What can go wrong with a channel.
-/
import Parley.Frame.Error
import Parley.Text.Duration
import Parley.Transport.Error

namespace Parley

/-- Why an operation on a channel failed. Types are named by their full names. -/
inductive ChannelError
  | transport (error : TransportError)
  | frame (error : FrameError)
  | closed
  | timeout (limit : Duration)
  | frameIdsExhausted
  | invalidReply (type : String) (frameId : Int32)
  | listenerExists (frameId : Int32)
  /-- The other side answered a request of the given wire type id with a failure. -/
  | remote (typeId : Int16) (text : String)
  | unexpectedReply (expected actual : String)
  /-- There is nothing on which the workers of the channel could run. -/
  | noRuntime
deriving DecidableEq, Repr

namespace ChannelError

/-- The name of each cause, which for an error of another layer is qualified. -/
def name : ChannelError → String
  | transport e => "Transport." ++ e.name
  | frame e => "Frame." ++ e.name
  | closed => "Closed"
  | timeout _ => "Timeout"
  | frameIdsExhausted => "FrameIdsExhausted"
  | invalidReply _ _ => "InvalidReply"
  | listenerExists _ => "ListenerExists"
  | remote _ _ => "Remote"
  | unexpectedReply _ _ => "UnexpectedReply"
  | noRuntime => "NoRuntime"

/-- The wording of each cause. -/
def message : ChannelError → String
  | transport e => "transport error: " ++ e.message
  | frame e => "frame error: " ++ e.message
  | closed => "channel closed"
  | timeout limit => "no reply within " ++ limit.render
  | frameIdsExhausted => "frame ids exhausted"
  | invalidReply type id => s!"cannot reply with {type} on frame id " ++ toString id.toInt
  | listenerExists id => "frame id " ++ toString id.toInt ++ " already has a response listener"
  | remote id text => "remote failure handling type " ++ toString id.toInt ++ ": " ++ text
  | unexpectedReply expected actual => s!"expected reply {expected}, got {actual}"
  | noRuntime => "channel must be started inside a tokio runtime"

end ChannelError

end Parley
