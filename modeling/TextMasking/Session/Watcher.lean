import TextMasking.Session.Basic

/-!
# Watchers

A watcher drives a session from a bounded queue of events that the host sends. Each event is handled
to its end before the next one. When the host asks to stop, or drops its end and the queue is empty,
the session is disabled and nothing can be sent any more; events that were sent before are still
handled.
-/

namespace TextMasking

/-- What the host tells a watcher. -/
inductive WatchEvent where
  | mutations (batch : List Mutation)
  | rules (rules : RuleList)
  | disable
  deriving Repr

/-- The queue between a host and a watcher. -/
structure WatchQueue where
  capacity : Nat
  events : List WatchEvent
  /-- The host can still send. -/
  held : Bool
  /-- The watcher still takes new events. -/
  accepting : Bool
  deriving Repr

/-- What becomes of an event that is sent. -/
inductive SendResult where
  | sent
  | full
  | stopped
  deriving DecidableEq, Repr

/-- What a host is told when nothing can be sent any more. -/
def SendResult.stoppedMessage : String := "corpus watcher has stopped"

namespace WatchQueue

/-- An empty queue; it has room for one event at least. -/
def new (capacity : Nat) : WatchQueue := ⟨max capacity 1, [], true, true⟩

/-- Sends an event if there is room. -/
def send (q : WatchQueue) (e : WatchEvent) : SendResult × WatchQueue :=
  if !q.accepting then (.stopped, q)
  else if q.events.length < q.capacity then (.sent, { q with events := q.events ++ [e] })
  else (.full, q)

/-- The host drops its end. -/
def drop (q : WatchQueue) : WatchQueue := { q with held := false }

/-- The watcher takes no more events. -/
def close (q : WatchQueue) : WatchQueue := { q with accepting := false }

end WatchQueue

/-- What the handling of one event comes to. -/
inductive WatchStep where
  | masked (report : Report)
  | stopped (restored : Nat)
  deriving Repr

/-- A session at work on a document, with the queue of its watcher. -/
structure Watcher where
  queue : WatchQueue
  session : Session
  document : Document

namespace Watcher

/-- Closes the queue and disables the session. -/
def stop (w : Watcher) (root : NodeId) : WatchStep × Watcher :=
  let (n, session, document) := w.session.disable w.document root
  (.stopped n, ⟨w.queue.close, session, document⟩)

/-- Handles one event. -/
def handle (w : Watcher) (root : NodeId) : WatchEvent → WatchStep × Watcher
  | .mutations batch =>
    let (report, document) := w.session.handleBatch batch w.document
    (.masked report, { w with document })
  | .rules rules =>
    let (report, session, document) := w.session.changeRules rules w.document root
    (.masked report, { w with session, document })
  | .disable => w.stop root

/-- Handles the next event, if there is one or none can come. -/
def next (w : Watcher) (root : NodeId) : Option (WatchStep × Watcher) :=
  match w.queue.events with
  | e :: rest => some (handle { w with queue := { w.queue with events := rest } } root e)
  | [] => if w.queue.held && w.queue.accepting then none else some (w.stop root)

/-- Handles the events that are queued until one stops the watcher, and merges the reports. There is
no report when the events run out before. -/
def drain (w : Watcher) (root : NodeId) (total : Report) :
    List WatchEvent → Option Report × Watcher
  | [] =>
    if w.queue.held && w.queue.accepting then (none, w) else (some total, (w.stop root).2)
  | e :: rest =>
    match handle { w with queue := { w.queue with events := rest } } root e with
    | (.masked report, w) => w.drain root (total.merge report) rest
    | (.stopped _, w) => (some total, w)

/-- Runs the watcher until it stops; it takes no event after that. -/
def run (w : Watcher) (root : NodeId) : Option Report × Watcher :=
  let (report, w) := w.drain root .empty w.queue.events
  (report, { w with queue := w.queue.close })

end Watcher

end TextMasking
