import Loopback.Proofs.Machine.Change

/-!
# What actions do to a queue

One action does one of four things to the queue of a session, or leaves it alone; and one that has
to wait found the queue full or empty. All that is proved of queues in runs goes by these cases.
-/

namespace Loopback

namespace Action

/-- The session whose queue an action may alter. -/
def alters? : Action → Option Session
  | .push session _ _ => some session
  | .append session _ => some session
  | .pop session _ => some session
  | .clear session => some session
  | _ => none

/-- What an answered action did to the queue of a session, and the call that it gave rise to. -/
inductive Effect (session : Session) :
    (action : Action) → action.Reply → Option Call → Queue → Queue → Prop where
  | pushed {item deadline q q'} (hoffer : q.offer item = some q') :
      Effect session (.push session item deadline) true (some (.one session .item)) q q'
  | appended {item q} :
      Effect session (.append session item) () (some (.one session .item)) q (q.append item)
  | popped {deadline q q' entry} (htake : q.take? = some (entry, q')) :
      Effect session (.pop session deadline) (some entry.item)
        (if entry.counted then some (.one session .room) else none) q q'
  | cleared {q : Queue} :
      Effect session (.clear session) q.clear.1 (some (.every session .room)) q q.clear.2
  | elsewhere {action answer call q} (haction : action.alters? ≠ some session) :
      Effect session action answer call q q

/-- Why an action has to wait, and the answer in case the wait is given up. -/
inductive Waits (w : World) : (action : Action) → action.Reply → Prop where
  | push {session item deadline q} (hqueue : w.channel.queues[session]? = some q)
      (hfull : q.offer item = none) : Waits w (.push session item deadline) false
  | pop {session deadline q} (hqueue : w.channel.queues[session]? = some q)
      (hempty : q.take? = none) : Waits w (.pop session deadline) none
  | pause {deadline} : Waits w (.pause deadline) ()

/-- Replacing the queue of one session leaves the others alone. -/
theorem queues_setQueue (c : Channel) (session other : Session) (queue : Queue) :
    (c.setQueue session queue).queues[other]? =
      if session = other then (c.queues[other]?).map fun _ => queue else c.queues[other]? := by
  rw [Channel.setQueue, List.getElem?_set]
  split
  next heq =>
    subst heq
    by_cases h : session < c.queues.length <;> simp [h]
  next => rfl

/-- A queue that is there stays as it is unless the action may alter it. -/
theorem queue_of_run_elsewhere {task : Nat} {w w' : World} {action : Action}
    {answer : action.Reply} {call : Option Call} (h : action.run task w = .reply answer w' call)
    {session : Session} {q : Queue} (hqueue : w.channel.queues[session]? = some q)
    (haction : action.alters? ≠ some session) : w'.channel.queues[session]? = some q := by
  cases action with
  | push s | pop s =>
    have hs : s ≠ session := by simpa [alters?] using haction
    simp only [run, atQueue] at h
    split at h
    · cases h
      exact hqueue
    · split at h
      · cases h
        simp [World.withChannel, queues_setQueue, hs, hqueue]
      · cases h
  | append s | clear s =>
    have hs : s ≠ session := by simpa [alters?] using haction
    simp only [run, atQueue] at h
    split at h
    · cases h
      exact hqueue
    · cases h
      simp [World.withChannel, queues_setQueue, hs, hqueue]
  | newSession =>
    cases h
    have hlen := (List.getElem?_eq_some_iff.1 hqueue).1
    simp [World.withChannel, List.getElem?_append_left hlen, hqueue]
  | getLength s =>
    simp only [run, atQueue] at h
    split at h <;> cases h <;> exact hqueue
  | setLine line level =>
    cases h
    cases line <;> exact hqueue
  | pause deadline =>
    simp only [run] at h
    split at h
    · cases h
      exact hqueue
    · cases h
  | enterLifecycle =>
    simp only [run] at h
    split at h
    · cases h
    · cases h
      exact hqueue
  | _ =>
    cases h
    exact hqueue

/-- An answered action has one of the effects on a queue that is there. -/
theorem effect_of_run {task : Nat} {w w' : World} {action : Action} {answer : action.Reply}
    {call : Option Call} (h : action.run task w = .reply answer w' call) {session : Session}
    {q : Queue} (hqueue : w.channel.queues[session]? = some q) :
    ∃ q', w'.channel.queues[session]? = some q' ∧ Effect session action answer call q q' := by
  by_cases haction : action.alters? = some session
  · cases action with
    | push s item deadline =>
      obtain rfl := Option.some.inj haction
      simp only [run, atQueue, hqueue] at h
      split at h
      next q' hoffer =>
        cases h
        exact ⟨q', by simp [World.withChannel, queues_setQueue, hqueue], .pushed hoffer⟩
      next => cases h
    | append s item =>
      obtain rfl := Option.some.inj haction
      simp only [run, atQueue, hqueue] at h
      cases h
      exact ⟨q.append item, by simp [World.withChannel, queues_setQueue, hqueue], .appended⟩
    | pop s deadline =>
      obtain rfl := Option.some.inj haction
      simp only [run, atQueue, hqueue] at h
      split at h
      next entry q' htake =>
        cases h
        exact ⟨q', by simp [World.withChannel, queues_setQueue, hqueue], .popped htake⟩
      next => cases h
    | clear s =>
      obtain rfl := Option.some.inj haction
      simp only [run, atQueue, hqueue] at h
      cases h
      exact ⟨q.clear.2, by simp [World.withChannel, queues_setQueue, hqueue], .cleared⟩
    | _ => cases haction
  · exact ⟨q, queue_of_run_elsewhere h hqueue haction, .elsewhere haction⟩

/-- An action that has to wait found no room, no element or no end of its pause. -/
theorem waits_of_run {task : Nat} {w : World} {action : Action} {otherwise : action.Reply}
    (h : action.run task w = .wait otherwise) : Waits w action otherwise := by
  cases action with
  | push session item deadline =>
    simp only [run, atQueue] at h
    split at h
    · cases h
    next q hqueue =>
      split at h
      · cases h
      next hfull =>
        cases h
        exact .push hqueue hfull
  | pop session deadline =>
    simp only [run, atQueue] at h
    split at h
    · cases h
    next q hqueue =>
      split at h
      · cases h
      next hempty =>
        cases h
        exact .pop hqueue hempty
  | pause deadline => exact .pause
  | append | clear | getLength =>
    simp only [run, atQueue] at h
    split at h <;> cases h
  | enterLifecycle =>
    simp only [run] at h
    split at h <;> cases h
  | _ => cases h

end Action

end Loopback
