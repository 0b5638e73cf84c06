/-
How long to wait before a request is sent again.

The server may say so, in seconds or by a date. If it says nothing that can be
read, the wait doubles with every attempt, up to half a minute. The wait for a
date is the time from now until then, and nothing for a date that has passed. Nothing
keeps what a server asks for within what a machine can wait.
-/
import ApiCommands.Calendar.MailDate
import ApiCommands.Call.Exchange

namespace ApiCommands

/-- A point in time, in millionths of a second since the start of 1970. -/
abbrev Moment := Int

namespace RetryDelay

/-- The longest wait the server has not asked for, in seconds. -/
def longest : Binary64 := .ofInt 30

/-- The wait that doubles with every attempt. -/
def backoff (attempt : Int) : Except Fault Binary64 :=
  match Binary64.powerOfTwo? (attempt - 1) with
  | none => .error .delayOverflow
  | some x => .ok (if x.lt longest then x else longest)

/-- The wait for a point in time given in seconds. -/
def waitUntil (now : Moment) (seconds : Int) : Binary64 :=
  let rest := seconds * 1000000 - now
  if 0 < rest then .ofRatio false rest.toNat 1000000 else .zero false

/-- The wait a server asks for, if what it says can be read. -/
def requested? (now : Moment) (header : List Char) : Except Fault (Option Binary64) :=
  match Numeral.readNumber? header with
  | some x => .ok (some x.positivePart)
  | none =>
    match MailDate.read header with
    | .moment seconds => .ok (some (waitUntil now seconds))
    | .beyond => .error .delayOverflow
    | .unreadable => .ok none

/-- The wait after a reply to a given attempt, in seconds. -/
def afterReply (now : Moment) (r : Reply) (attempt : Int) : Except Fault Binary64 := do
  let asked ← match r.header? "retry-after" with
    | none => pure none
    | some header => requested? now header.toList
  match asked with
  | some x => return x
  | none => backoff attempt

/-- The first wait a machine does not make: it counts billionths of a second with 64 bits. -/
def endless : Binary64 := .ofRatio false 9223372036854775808 1000000000

/-- A wait as a machine makes it. -/
def sleep (wait : Binary64) : Except Fault Unit :=
  if wait.lt endless then .ok () else .error .delayOverflow

end RetryDelay

end ApiCommands
