/-
The logs that a search has to look at: for listed users one log to a channel, user and month, for
everybody one log to a channel and day.
-/
import Scrollback.Service

namespace Scrollback

/-- Whose lines are searched. -/
inductive Users where
  /-- The listed users, month by month. -/
  | listed (names : List String)
  /-- Everybody, day by day. -/
  | everyone
  deriving DecidableEq, Repr

/-- Counts are 64-bit words; what would be more is the greatest of them. -/
def wordMax : Nat := UInt64.size - 1

def saturatingMul (a b : Nat) : Nat :=
  min (a * b) wordMax

/-- The targets of one channel. -/
def Service.channelTargets (s : Service) (users : Users) (p : Period) (channel : String) :
    List Target :=
  match users with
  | .listed names => names.flatMap fun user => p.months.map (s.monthlyTarget channel user)
  | .everyone => p.days.map (s.dailyTarget channel)

/-- The targets of several channels, channel by channel. -/
def Service.targets (s : Service) (channels : List String) (users : Users) (p : Period) :
    List Target :=
  channels.flatMap (s.channelTargets users p)

/-- How many targets there are, without making them. -/
def targetCount (channels : List String) (users : Users) (p : Period) : Nat :=
  saturatingMul channels.length
    (match users with
    | .listed names => saturatingMul names.length p.monthCount
    | .everyone => p.dayCount)

end Scrollback
