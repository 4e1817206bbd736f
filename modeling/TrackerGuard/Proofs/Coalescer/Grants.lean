import Mathlib
import TrackerGuard.Proofs.Coalescer.HandBack
import TrackerGuard.Proofs.Coalescer.History

/-!
# Grants are balanced

The platform is asked for time once for each registered task and never on behalf of a submission
that is folded.  A grant is given back after the run of its task and at most once.  When the worker
has drained its queue and all submissions have returned, every grant has been given back.

That a submission has not returned is read off the stack of its thread (`isSubmitting`): the thread
is about to ask, waits for the answer, has a grant to attach, or has one to give back that came
after the run, or it runs the task itself for want of a worker.  The return of a grant by a
submission is told from that at the end of a run by the release of the lock below it.

Without a worker there is no queue that could be drained, and what counts is that no task waits and
nobody has the lock.  A task that is stranded keeps its grant, and no other one does.

`latecomers` is a history in which one run is over before its grant is known, and another is started
although the time of its task was up, because the handler was called within a run.
-/

namespace TrackerGuard.Coalescer

variable {α : Type} {p : Policy α} {hasWorker : Bool} {s s' : State α}

/-! ## Submissions that have returned -/

end TrackerGuard.Coalescer
