import AccessDecision.Policy.Timeout

/-!
# Event loops

A lookup and the timeouts around it take turns on an event loop.  When a moment has come, the
loop still has to take up what is due: of two things that are due at almost the same moment
either may come first, and a timeout may be over before what it waits for had its turn.  What a
loop makes of the timeouts is its own affair, so lookups take the loop as it is.
-/

namespace AccessDecision

structure EventLoop where
  /-- Whether a timeout is over before something that takes the given time is done. -/
  interrupts : Timeout → Quantity → Bool
  /-- Whether a timeout is over before another one around it. -/
  precedes : Timeout → Timeout → Bool
  /-- Whether a timeout is over before the lookups that wait within it had their turns. -/
  hurries : Timeout → Bool

/-- An event loop that comes late by some time.  What is due within that time of something
around it comes after it; what is done at once is done before any timeout is over. -/
def EventLoop.lagging (lag : Rat) : EventLoop where
  interrupts timeout delay := !delay.atMost (.finite 0) && !delay.atMost timeout.size
  precedes timeout outer := timeout.size.precedesBy lag outer.size
  hurries timeout := !(Quantity.finite 0).precedesBy lag timeout.size

end AccessDecision
