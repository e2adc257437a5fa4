/-
Calls: a request, and the wait for its reply within a limit.

A call ends with the reply, with the failure that the other side reported, or
with another error. The first two leave the channel as it was. After any other
error the two sides may no longer agree on what was said, so the channel is
closed.
-/
import Parley.Channel.Basic

namespace Parley.Channel

variable {σ : Type}

/-- The channel after a call has ended. -/
def afterCall (c : Channel σ) : Except ChannelError α → Channel σ
  | .ok _ => c
  | .error (.remote _ _) => c
  | .error _ => c.shutdown.2

/-- Looks at the request of a call. It has ended if the request has, and else
if its time is up. Yields also whether the request was found written. -/
def pollCall (c : Channel σ) (h : ReplyHandle) (limit : Duration) (expired : Bool) :
    Option (Except ChannelError h.expects.Reply) × Bool × Channel σ :=
  match c.pollReply h with
  | (some result, written, c) => (some result, written, c.afterCall result)
  | (none, written, c) =>
    if expired then
      let result := .error (.timeout limit)
      (some result, written, (c.dropReply h).afterCall result)
    else (none, written, c)

end Parley.Channel
