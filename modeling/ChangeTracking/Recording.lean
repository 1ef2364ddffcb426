import ChangeTracking.Act

namespace ChangeTracking
variable {H : Host} {α : Type}

def isRecording : Act H Bool := do return (← Act.getThread).recording.isSome

/-- Notes that a key was read, if reads are being recorded on this thread. -/
def access (registrar : RegistrarId) (key : Key) : Act H Unit :=
  Act.onThreadState fun thread =>
    ((), { thread with recording := thread.recording.map (·.add registrar key) })

/-- What an outer recording holds after one inside it ended. -/
def AccessList.absorb (outer inner : AccessList) : AccessList :=
  if inner.isEmpty then outer else outer.merge inner

/-- Runs a computation and says what it read. The recording around it is put back however
the computation ends, with the reads of the computation added to it. -/
def record (body : Act H α) : Act H (α × AccessList) := do
  let outer ← Act.onThreadState fun thread =>
    (thread.recording, { thread with recording := some ∅ })
  let result ← Act.attempt body
  let reads ← Act.onThreadState fun thread =>
    let reads := thread.recording.getD ∅
    (reads, { thread with recording := outer.map (·.absorb reads) })
  return (← Act.resume result, reads)

end ChangeTracking
