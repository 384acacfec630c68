/-
**Versions.** The stamps of writes, and which writes a stored version allows.

* `nextStamp` — the time of a write, or just after the last stamp when the clock has not moved on.
* `checkWrite` — an insertion carries no stamp; an update carries the stored one and a status that the
  stored status can become.
-/
import TaskLedger.Store.Error

namespace TaskLedger

open Time (Instant)

/-- The stamp of the next write, given the last stamp and the time. -/
def nextStamp (last : Option Instant) (now : Instant) : Instant :=
  match last.bind (·.add? 1) with
  | some least => max least now
  | none => now

/-- Checks a write of a task against the stored version of it. -/
def checkWrite (id : TaskId) (stored : Option Task) (incoming : Task) : Except StoreError Unit :=
  match stored with
  | none => if incoming.stamp.isNone then .ok () else .error (.concurrentUpdate id)
  | some stored =>
    if stored.stamp ≠ incoming.stamp then .error (.concurrentUpdate id)
    else if stored.status.canBecome incoming.status then .ok ()
    else .error (.invalid (.statusStep id stored.status incoming.status))

end TaskLedger
