import Loopback.Proofs.Machine.Regime
import Loopback.Proofs.Queue.Effect

/-!
# A channel in use

While tasks only read from an open channel and write to it, it stays open, its session and settings
stay what they are, and its queue holds nothing but bytes. So a task is told that it is open, and it
gives up waiting only if it has a deadline.
-/

namespace Loopback

/-- An open channel with a session, settings, and a queue without the mark of the end. -/
structure World.Live (session : Session) (settings : PortSettings) (w : World) : Prop where
  isOpen : w.channel.isOpen = true
  current : w.channel.session? = some session
  settings_eq : w.channel.settings = settings
  queue : ∃ q, w.channel.queues[session]? = some q ∧ .endOfStream ∉ q.items

namespace Channel

/-- Reading and writing: what a channel in use allows, and what it answers. -/
def busy (session : Session) (settings : PortSettings) : Regime where
  holds := World.Live session settings
  allows
    | .push s item _ => s = session ∧ item ≠ .endOfStream
    | .pop s _ => s = session
    | .setOpen _ | .changeSettings _ | .newSession | .clear _ | .append _ _ => False
    | .enterLifecycle | .leaveLifecycle => False
    | _ => True
  expects
    | ⟨.getOpen, isOpen⟩ => isOpen = true
    | ⟨.getSession, current⟩ => current = some session
    | ⟨.getSettings, answer⟩ => answer = settings
    | ⟨.push _ _ deadline, accepted⟩ => accepted = true ∨ deadline ≠ none
    | ⟨.pop _ deadline, item⟩ => item ≠ some .endOfStream ∧ (item = none → deadline ≠ none)
    | _ => True

end Channel

namespace World.Live

variable {session : Session} {settings : PortSettings} {w : World}

/-- Replacing the queue by another one without the mark changes nothing else. -/
theorem setQueue (h : w.Live session settings) {q : Queue} (hq : .endOfStream ∉ q.items) :
    (w.withChannel (w.channel.setQueue session q)).Live session settings where
  isOpen := h.isOpen
  current := by
    have hlen : (w.channel.setQueue session q).queues.length = w.channel.queues.length :=
      List.length_set
    have hcurrent := h.current
    simp only [Channel.session?] at hcurrent ⊢
    rw [World.withChannel, hlen]
    exact hcurrent
  settings_eq := h.settings_eq
  queue := by
    obtain ⟨old, hold, -⟩ := h.queue
    exact ⟨q, by simp [World.withChannel, Action.queues_setQueue, hold], hq⟩

/-- A channel that differs in nothing of this is as live. -/
theorem of_channel (h : w.Live session settings) {w' : World}
    (hopen : w'.channel.isOpen = w.channel.isOpen) (hqueues : w'.channel.queues = w.channel.queues)
    (hsettings : w'.channel.settings = w.channel.settings) : w'.Live session settings where
  isOpen := hopen.trans h.isOpen
  current := by
    rw [Channel.session?, hqueues]
    exact h.current
  settings_eq := hsettings.trans h.settings_eq
  queue := by
    rw [hqueues]
    exact h.queue

end World.Live

namespace Channel

/-- What a channel in use allows keeps it in use, and is answered as expected. -/
theorem busy_kept (session : Session) (settings : PortSettings) : (busy session settings).Kept where
  reply {task w w' action answer call} hholds hallows hrun := by
    -- What would end the use is not allowed, and what is put is no mark.
    cases action with
    | push s item deadline =>
      obtain ⟨rfl, hitem⟩ := hallows
      obtain ⟨q, hq, hmark⟩ := hholds.queue
      simp only [Action.run, Action.atQueue, hq] at hrun
      split at hrun
      next q' hoffer =>
        cases hrun
        refine ⟨hholds.setQueue ?_, .inl rfl⟩
        rw [Queue.items_of_offer hoffer]
        simpa [hmark] using hitem.symm
      next => cases hrun
    | pop s deadline =>
      obtain rfl := hallows
      obtain ⟨q, hq, hmark⟩ := hholds.queue
      simp only [Action.run, Action.atQueue, hq] at hrun
      split at hrun
      next entry q' htake =>
        cases hrun
        rw [Queue.items_of_take? htake, List.mem_cons, not_or] at hmark
        refine ⟨hholds.setQueue hmark.2, by simpa using Ne.symm hmark.1, ?_⟩
        intro hnone
        cases hnone
      next => cases hrun
    | setOpen | changeSettings | newSession | clear | append | enterLifecycle | leaveLifecycle =>
      exact hallows.elim
    | getOpen => cases hrun; exact ⟨hholds, hholds.isOpen⟩
    | getSession => cases hrun; exact ⟨hholds, hholds.current⟩
    | getSettings => cases hrun; exact ⟨hholds, hholds.settings_eq⟩
    | getLength s =>
      simp only [Action.run, Action.atQueue] at hrun
      split at hrun <;> cases hrun <;> exact ⟨hholds, trivial⟩
    | pause deadline =>
      simp only [Action.run] at hrun
      split at hrun
      · cases hrun
        exact ⟨hholds, trivial⟩
      · cases hrun
    | setLine line level =>
      cases hrun
      cases line <;> exact ⟨hholds.of_channel rfl rfl rfl, trivial⟩
    | _ =>
      cases hrun
      exact ⟨hholds.of_channel rfl rfl rfl, trivial⟩
  wait {task w action otherwise} _ _ hrun hdeadline := by
    cases Action.waits_of_run hrun with
    | push => exact .inr hdeadline
    | pop => exact ⟨by simp, fun _ => hdeadline⟩
    | pause => trivial
  tick _ hholds := hholds.of_channel rfl rfl rfl

end Channel

end Loopback
