import Mathlib.Tactic.SplitIfs
import TextMasking.Document.PlainText
import TextMasking.Session.Watcher

/-! # Watchers at work

A host sends events to a watcher, changes the document and drops its handles, in any order with the
calls that handle the next event (`Watched.run`).  The events are handled in the order in which they
were sent, each once (`Watched.InOrder`).  Once a call has answered that the watcher has stopped,
nothing can be sent any more, and no later call does anything, whatever it finds in the queue
(`Watched.AtRest`): each event leaves an idle session and its document as they are
(`Watcher.idles_handle`). -/

namespace TextMasking

/-! ### Calls of a watcher -/

namespace Session

theorem active_changeRules (s : Session) (rules : RuleList) (d : Document) (root : NodeId) :
    (s.changeRules rules d root).2.1.active = s.active := by
  rw [changeRules]
  split_ifs with h
  · exact h.symm
  · rfl

theorem active_disable (s : Session) (d : Document) (root : NodeId) :
    (s.disable d root).2.1.active = false := by
  rw [disable]
  split_ifs with h
  · rfl
  · exact Bool.eq_false_iff.mpr h

end Session

namespace Watcher

variable {w : Watcher} {root : NodeId} {e : WatchEvent}

/-- The watcher without the first event of its queue. -/
def rest (w : Watcher) : Watcher :=
  { w with queue := { w.queue with events := w.queue.events.tail } }

@[simp] theorem rest_events (w : Watcher) : w.rest.queue.events = w.queue.events.tail := rfl

@[simp] theorem rest_held (w : Watcher) : w.rest.queue.held = w.queue.held := rfl

@[simp] theorem rest_accepting (w : Watcher) : w.rest.queue.accepting = w.queue.accepting := rfl

@[simp] theorem rest_session (w : Watcher) : w.rest.session = w.session := rfl

/-- A call that leaves the document and the session as they are, and neither makes masks nor turns
them back. -/
structure Idles (w : Watcher) (result : WatchStep × Watcher) : Prop where
  document : result.2.document = w.document
  session : result.2.session = w.session
  answer : result.1 = .masked .empty ∨ result.1 = .stopped 0

/-- What a call does to the queue and to the session. -/
structure Answers (w : Watcher) (result : WatchStep × Watcher) : Prop where
  events : result.2.queue.events = w.queue.events
  held : result.2.queue.held = w.queue.held
  masked : ∀ report, result.1 = .masked report →
    result.2.queue.accepting = w.queue.accepting ∧ result.2.session.active = w.session.active
  stopped : ∀ n, result.1 = .stopped n →
    result.2.queue.accepting = false ∧ result.2.session.active = false

theorem answers_stop (w : Watcher) (root : NodeId) : w.Answers (w.stop root) where
  events := rfl
  held := rfl
  masked := fun _ h => by cases h
  stopped := fun _ _ => ⟨rfl, w.session.active_disable w.document root⟩

theorem answers_handle (w : Watcher) (root : NodeId) (e : WatchEvent) :
    w.Answers (w.handle root e) := by
  cases e with
  | mutations batch => exact ⟨rfl, rfl, fun _ _ => ⟨rfl, rfl⟩, fun _ h => by cases h⟩
  | rules rules =>
      exact ⟨rfl, rfl, fun _ _ => ⟨rfl, w.session.active_changeRules rules w.document root⟩,
        fun _ h => by cases h⟩
  | disable => exact w.answers_stop root

theorem idles_stop (h : w.session.active = false) (root : NodeId) : w.Idles (w.stop root) := by
  have hsame : w.session.disable w.document root = (0, w.session, w.document) := by
    rw [Session.disable, if_neg (by rw [h]; exact Bool.false_ne_true)]
  rw [stop, hsame]
  exact ⟨rfl, rfl, .inr rfl⟩

/-- **An idle session stays as it is, and so does its document,** whatever the event. -/
theorem idles_handle (h : w.session.active = false) (root : NodeId) (e : WatchEvent) :
    w.Idles (w.handle root e) := by
  cases e with
  | mutations batch =>
      have hnone : w.session.engine = none := by simpa [Session.active] using h
      have hsame : w.session.handleBatch batch w.document = (.empty, w.document) := by
        rw [Session.handleBatch, hnone]
      rw [handle, hsame]
      exact ⟨rfl, rfl, .inl rfl⟩
  | rules rules =>
      have hsame : w.session.changeRules rules w.document root =
          (.empty, w.session, w.document) := by
        rw [Session.changeRules, if_neg (by rw [h]; exact Bool.false_ne_true)]
      rw [handle, hsame]
      exact ⟨rfl, rfl, .inl rfl⟩
  | disable => exact idles_stop h root

/-- A call handles the first event, or waits for one, or stops because none can come. -/
theorem next_cases (w : Watcher) (root : NodeId) :
    (∃ e, w.queue.events.head? = some e ∧ w.next root = some (w.rest.handle root e)) ∨
      (w.queue.events = [] ∧ w.queue.held = true ∧ w.queue.accepting = true ∧
        w.next root = none) ∨
      (w.queue.events = [] ∧ (w.queue.held = true → w.queue.accepting = false) ∧
        w.next root = some (w.stop root)) := by
  rw [next]
  cases hevents : w.queue.events with
  | cons e more =>
      refine .inl ⟨e, rfl, ?_⟩
      rw [rest, hevents]
      rfl
  | nil =>
      refine .inr ?_
      dsimp only
      split_ifs with h
      · rw [Bool.and_eq_true] at h
        exact .inl ⟨rfl, h.1, h.2, rfl⟩
      · exact .inr ⟨rfl, fun hheld => by simpa [hheld] using h, rfl⟩

theorem answers_next {result : WatchStep × Watcher} (h : w.next root = some result) :
    w.rest.Answers result := by
  obtain ⟨e, -, hnext⟩ | ⟨-, -, -, hnext⟩ | ⟨hevents, -, hnext⟩ := w.next_cases root
  · obtain rfl := Option.some.inj (hnext.symm.trans h)
    exact w.rest.answers_handle root e
  · rw [hnext] at h
    cases h
  · obtain rfl := Option.some.inj (hnext.symm.trans h)
    have hrest : w.rest = w := by
      rw [rest, hevents, List.tail_nil, ← hevents]
    rw [hrest]
    exact w.answers_stop root

theorem idles_next (hidle : w.session.active = false) {result : WatchStep × Watcher}
    (h : w.next root = some result) : w.Idles result := by
  obtain ⟨e, -, hnext⟩ | ⟨-, -, -, hnext⟩ | ⟨-, -, hnext⟩ := w.next_cases root
  · obtain rfl := Option.some.inj (hnext.symm.trans h)
    obtain ⟨hdocument, hsession, hanswer⟩ := idles_handle (w := w.rest) hidle root e
    exact ⟨hdocument, hsession, hanswer⟩
  · rw [hnext] at h
    cases h
  · obtain rfl := Option.some.inj (hnext.symm.trans h)
    exact idles_stop hidle root

end Watcher

/-! ### Hosts and watchers -/

/-- What can happen while a watcher is at work: the host sends an event, takes another handle, drops
one or changes the document, or the next event is handled. -/
inductive WatchAct where
  | send (e : WatchEvent)
  | clone
  | drop
  | edit (change : Document → Document)
  | next (root : NodeId)

/-- A watcher with the handles that its host has left, the events that were sent and those that were
taken from the queue, in order, and what the calls answered. -/
structure Watched where
  watcher : Watcher
  handles : Nat
  sent : List WatchEvent
  taken : List WatchEvent
  answers : List WatchStep

namespace Watched

/-- A new queue and its first handle. -/
def start (capacity : Nat) (session : Session) (document : Document) : Watched :=
  ⟨⟨.new capacity, session, document⟩, 1, [], [], []⟩

/-- One act.  Only a host that has a handle can send an event, or take another handle; the queue is
dropped with the last one. -/
def step (s : Watched) : WatchAct → Watched
  | .send e =>
    if s.handles = 0 then s
    else
      match s.watcher.queue.send e with
      | (.sent, queue) => { s with watcher := { s.watcher with queue }, sent := s.sent ++ [e] }
      | _ => s
  | .clone => if s.handles = 0 then s else { s with handles := s.handles + 1 }
  | .drop =>
    match s.handles with
    | 0 => s
    | 1 => { s with handles := 0, watcher := { s.watcher with queue := s.watcher.queue.drop } }
    | n + 2 => { s with handles := n + 1 }
  | .edit change =>
    { s with watcher := { s.watcher with document := change s.watcher.document } }
  | .next root =>
    match s.watcher.next root with
    | none => s
    | some (answer, watcher) =>
      { s with
        watcher
        taken := s.taken ++ s.watcher.queue.events.take 1
        answers := s.answers ++ [answer] }

/-- Acts in order. -/
def run (s : Watched) (acts : List WatchAct) : Watched :=
  acts.foldl step s

/-- A call has answered that the watcher has stopped. -/
def Stopped (s : Watched) : Prop := ∃ n, .stopped n ∈ s.answers

instance (s : Watched) : Decidable s.Stopped :=
  decidable_of_iff (s.answers.any fun | .stopped _ => true | .masked _ => false) <| by
    rw [List.any_eq_true]
    constructor
    · rintro ⟨_ | n, hn, h⟩
      · cases h
      · exact ⟨n, hn⟩
    · rintro ⟨n, hn⟩
      exact ⟨_, hn, rfl⟩

/-- The next call handles the first event that was sent and not taken; it waits while there is none,
unless the watcher has stopped or no handle is left. -/
structure InOrder (s : Watched) : Prop where
  sent_eq : s.sent = s.taken ++ s.watcher.queue.events
  takes : ∀ root e, s.sent[s.taken.length]? = some e →
    s.watcher.next root = some (s.watcher.rest.handle root e) ∧
      (s.step (.next root)).taken = s.taken ++ [e]
  waits : ∀ root, s.watcher.next root = none ↔ s.taken = s.sent ∧ 0 < s.handles ∧ ¬s.Stopped

/-- The session is idle, nothing can be sent, and a call does nothing but answer. -/
structure AtRest (s : Watched) : Prop where
  idle : s.watcher.session.active = false
  sends : ∀ e, (s.watcher.queue.send e).1 = .stopped
  calls : ∀ root, ∃ result, s.watcher.next root = some result ∧ s.watcher.Idles result

/-- What holds after any acts. -/
structure Sound (s : Watched) : Prop where
  sent_eq : s.sent = s.taken ++ s.watcher.queue.events
  held_iff : s.watcher.queue.held = true ↔ 0 < s.handles
  accepting_iff : s.watcher.queue.accepting = true ↔ ¬s.Stopped
  idle : s.Stopped → s.watcher.session.active = false

variable {s : Watched}

theorem sound_start (capacity : Nat) (session : Session) (document : Document) :
    (start capacity session document).Sound := by
  have hnot : ¬(start capacity session document).Stopped := by
    rintro ⟨n, h⟩
    cases h
  exact ⟨rfl, iff_of_true rfl Nat.one_pos, iff_of_true rfl hnot, fun h => absurd h hnot⟩

theorem sound_send (h : s.Sound) (e : WatchEvent) : (s.step (.send e)).Sound := by
  rw [step]
  split_ifs with hhandles
  · exact h
  · cases hsend : s.watcher.queue.send e with
    | mk answer queue =>
        rw [WatchQueue.send] at hsend
        split_ifs at hsend with hclosed hroom
        · cases hsend
          exact h
        · cases hsend
          refine ⟨?_, h.held_iff, h.accepting_iff, h.idle⟩
          rw [h.sent_eq, List.append_assoc]
        · cases hsend
          exact h

theorem sound_drop (h : s.Sound) : (s.step .drop).Sound := by
  obtain ⟨watcher, handles, sent, taken, answers⟩ := s
  rcases handles with _ | _ | n
  · exact h
  · exact ⟨h.sent_eq, iff_of_false Bool.false_ne_true (Nat.lt_irrefl 0), h.accepting_iff, h.idle⟩
  · refine ⟨h.sent_eq, h.held_iff.trans ?_, h.accepting_iff, h.idle⟩
    exact iff_of_true (Nat.succ_pos _) (Nat.succ_pos _)

theorem stopped_append {answer : WatchStep} :
    (∃ n, .stopped n ∈ s.answers ++ [answer]) ↔ s.Stopped ∨ ∃ n, answer = .stopped n := by
  simp only [List.mem_append, List.mem_singleton, exists_or, Stopped, eq_comm]

theorem sound_next (h : s.Sound) (root : NodeId) : (s.step (.next root)).Sound := by
  rw [step]
  cases hnext : s.watcher.next root with
  | none => exact h
  | some result =>
      obtain ⟨answer, watcher⟩ := result
      obtain ⟨hevents, hheld, hmasked, hstopped⟩ := Watcher.answers_next hnext
      dsimp only at hevents hheld hmasked hstopped ⊢
      have hsent : s.sent = s.taken ++ s.watcher.queue.events.take 1 ++ watcher.queue.events := by
        rw [hevents, Watcher.rest_events, List.append_assoc, ← List.drop_one,
          List.take_append_drop, ← h.sent_eq]
      refine ⟨hsent, (by rw [hheld]; exact h.held_iff), ?_, ?_⟩
      · rw [Stopped, stopped_append]
        cases answer with
        | masked report =>
            rw [(hmasked report rfl).1]
            simpa using h.accepting_iff
        | stopped n =>
            rw [(hstopped n rfl).1]
            simp
      · rw [Stopped, stopped_append]
        cases answer with
        | masked report =>
            rw [(hmasked report rfl).2]
            simpa using h.idle
        | stopped n => exact fun _ => (hstopped n rfl).2

/-- One act keeps what holds. -/
theorem sound_step (h : s.Sound) (act : WatchAct) : (s.step act).Sound := by
  cases act with
  | send e => exact sound_send h e
  | clone =>
      rw [step]
      split_ifs with hhandles
      · exact h
      · refine ⟨h.sent_eq, h.held_iff.trans ?_, h.accepting_iff, h.idle⟩
        exact iff_of_true (Nat.pos_of_ne_zero hhandles) (Nat.succ_pos _)
  | drop => exact sound_drop h
  | edit change => exact ⟨h.sent_eq, h.held_iff, h.accepting_iff, h.idle⟩
  | next root => exact sound_next h root

/-- So do all acts of a run. -/
theorem sound_run (h : s.Sound) (acts : List WatchAct) : (s.run acts).Sound := by
  induction acts generalizing s with
  | nil => exact h
  | cons act acts ih => exact ih (sound_step h act)

/-- No answer is taken back. -/
theorem stopped_step (h : s.Stopped) (act : WatchAct) : (s.step act).Stopped := by
  obtain ⟨n, hn⟩ := h
  refine ⟨n, ?_⟩
  cases act with
  | send e =>
      rw [step]
      split_ifs
      · exact hn
      · split <;> exact hn
  | clone =>
      rw [step]
      split_ifs <;> exact hn
  | drop =>
      rw [step]
      split <;> exact hn
  | edit change => exact hn
  | next root =>
      rw [step]
      split
      · exact hn
      · exact List.mem_append_left _ hn

theorem stopped_run (h : s.Stopped) (acts : List WatchAct) : (s.run acts).Stopped := by
  induction acts generalizing s with
  | nil => exact h
  | cons act acts ih => exact ih (stopped_step h act)

theorem Sound.inOrder (h : s.Sound) : s.InOrder := by
  refine ⟨h.sent_eq, fun root e he => ?_, fun root => ?_⟩
  · rw [h.sent_eq, List.getElem?_append_right (Nat.le_refl _), Nat.sub_self,
      ← List.head?_eq_getElem?] at he
    obtain ⟨more, hevents⟩ := List.head?_eq_some_iff.mp he
    obtain ⟨e', he', hnext⟩ | ⟨hnil, -⟩ | ⟨hnil, -⟩ := s.watcher.next_cases root
    · obtain rfl := Option.some.inj (he'.symm.trans he)
      refine ⟨hnext, ?_⟩
      rw [step, hnext]
      dsimp only
      rw [hevents]
      rfl
    · rw [hevents] at hnil
      cases hnil
    · rw [hevents] at hnil
      cases hnil
  · have hall : s.taken = s.sent ↔ s.watcher.queue.events = [] := by
      rw [h.sent_eq, List.self_eq_append_right]
    rw [hall, ← h.held_iff, ← h.accepting_iff]
    obtain ⟨e, he, hnext⟩ | ⟨hnil, hheld, hopen, hnext⟩ | ⟨hnil, hclosed, hnext⟩ :=
      s.watcher.next_cases root
    · refine iff_of_false (by rw [hnext]; exact Option.some_ne_none _) fun hwait => ?_
      rw [hwait.1] at he
      cases he
    · exact iff_of_true hnext ⟨hnil, hheld, hopen⟩
    · refine iff_of_false (by rw [hnext]; exact Option.some_ne_none _) fun hwait => ?_
      rw [hclosed hwait.2.1] at hwait
      exact Bool.false_ne_true hwait.2.2

theorem Sound.atRest (h : s.Sound) (hs : s.Stopped) : s.AtRest := by
  have hclosed : s.watcher.queue.accepting = false :=
    Bool.eq_false_iff.mpr fun hopen => h.accepting_iff.mp hopen hs
  refine ⟨h.idle hs, fun e => ?_, fun root => ?_⟩
  · rw [WatchQueue.send, hclosed]
    rfl
  · have hanswers : s.watcher.next root ≠ none := fun hnone =>
      ((h.inOrder.waits root).mp hnone).2.2 hs
    obtain ⟨result, hnext⟩ := Option.ne_none_iff_exists'.mp hanswers
    exact ⟨result, hnext, Watcher.idles_next (h.idle hs) hnext⟩

/-- **A watcher handles events in order and stays stopped.**  After any acts, the events that were
taken are the first ones that were sent, and the next call handles the one that follows them; and
once a call has answered that the watcher has stopped, nothing can be sent after any further acts,
and each call leaves the document and the idle session as they are. -/
theorem inOrder_and_atRest (capacity : Nat) (session : Session) (document : Document)
    (acts later : List WatchAct) :
    ((start capacity session document).run acts).InOrder ∧
      (((start capacity session document).run acts).Stopped →
        (((start capacity session document).run acts).run later).AtRest) := by
  have hsound := sound_run (sound_start capacity session document) acts
  exact ⟨hsound.inOrder, fun hs => (sound_run hsound later).atRest (stopped_run hs later)⟩

/-- A session that is disabled while an event is left in the queue. -/
theorem inOrder_and_atRest_disabled :
    let masked := (Session.idle .default).enable [.literal "Acme" "X"] (.ofPlainText "by Acme")
      Document.root
    let s := (start 2 masked.2.1 masked.2.2).run [.send .disable,
      .send (.mutations [.added Document.root]), .drop, .next Document.root]
    s.watcher.queue.events.length = 1 ∧ s.Stopped ∧ (s.run [.next Document.root]).AtRest := by
  intro masked s
  have hs : s.Stopped := by decide
  exact ⟨by decide, hs, (inOrder_and_atRest 2 masked.2.1 masked.2.2 _ _).2 hs⟩

end Watched

end TextMasking
