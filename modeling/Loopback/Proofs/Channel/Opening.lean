import Loopback.Channel.Lifecycle
import Loopback.Proofs.Channel.Busy
import Loopback.Proofs.Machine.Alone

/-!
# A channel that was just opened

Opening a channel with no other task about leaves it open, with an empty queue of the capacity that it
was built with, and under settings that were found in order.
-/

namespace Loopback

/-- A program that succeeds alone with an action at its end succeeds before it. -/
theorem Program.of_alone_thenAlways {ε α : Type} {last : Action} {p : Program ε α}
    {task : Nat} {w w' : World} {result : α}
    (h : (p.thenAlways last).alone task w = .ended (.ok result) w') :
    ∃ w₁ answer, p.alone task w = .ended (.ok result) w₁ ∧ last.Alone task w₁ answer w' := by
  induction p generalizing w with
  | act action next ih =>
    obtain ⟨answer, w₁, halone, hnext⟩ := Program.alone_act.1 h
    obtain ⟨w₂, lastly, hended, hlast⟩ := ih answer hnext
    exact ⟨w₂, lastly, Program.alone_act.2 ⟨answer, w₁, halone, hended⟩, hlast⟩
  | done =>
    obtain ⟨answer, w₁, halone, hend⟩ := Program.alone_act.1 h
    cases hend
    exact ⟨w, answer, rfl, halone⟩
  | _ =>
    obtain ⟨answer, w₁, -, hend⟩ := Program.alone_act.1 h
    cases hend

/-- An open channel whose session has an empty queue of a capacity. -/
structure World.Fresh (session : Session) (settings : PortSettings) (capacity : Nat) (w : World) : Prop where
  live : w.Live session settings
  created : w.channel.queues[session]? = some (Queue.create capacity)

namespace Channel

/-- What the last part of opening does, and what it is answered. -/
def opening (session : Session) (settings : PortSettings) (capacity : Nat) : Regime where
  holds := World.Fresh session settings capacity
  allows
    | .clear s => s = session
    | .getOpen | .getSession | .setLine _ _ | .note _ _ | .report _ => True
    | _ => False
  expects
    | ⟨.getOpen, isOpen⟩ => isOpen = true
    | ⟨.getSession, current⟩ => current = some session
    | _ => True

/-- What opening leaves alone is kept by every action it takes. -/
theorem opening_kept (session : Session) (settings : PortSettings) (capacity : Nat) :
    (opening session settings capacity).Kept where
  reply {task w w' action answer call} hholds hallows hrun := by
    cases action with
    | getOpen => cases hrun; exact ⟨hholds, hholds.live.isOpen⟩
    | getSession => cases hrun; exact ⟨hholds, hholds.live.current⟩
    | note | report => cases hrun; exact ⟨⟨hholds.live.of_channel rfl rfl rfl, hholds.created⟩, trivial⟩
    | setLine line level =>
      cases hrun
      cases line <;> exact ⟨⟨hholds.live.of_channel rfl rfl rfl, hholds.created⟩, trivial⟩
    | clear s =>
      obtain rfl : s = session := hallows
      simp only [Action.run, Action.atQueue, hholds.created] at hrun
      cases hrun
      refine ⟨⟨hholds.live.setQueue List.not_mem_nil, ?_⟩, trivial⟩
      rw [World.withChannel, Action.queues_setQueue, if_pos rfl, hholds.created]
      rfl
    | _ => exact hallows.elim
  wait {task w action otherwise} _ hallows hrun _ := by
    cases Action.waits_of_run hrun <;> exact hallows.elim
  tick _ hholds := ⟨hholds.live.of_channel rfl rfl rfl, hholds.created⟩

/-- What is done after a new session has begun follows the regime of opening. -/
theorem follows_opening (session : Session) (settings : PortSettings) (capacity : Nat) (event : Event) :
    (opening session settings capacity).Follows (do
      setDataTerminalReady false
      setRequestToSend false
      resetInput
      resetOutput
      .perform (.report event) : Operation Unit) := by
  have hreset : ∀ message, (opening session settings capacity).Follows (do
      let session ← liveSession
      Program.note .info message
      let _ ← QueueCall.clear session
      pure () : Operation Unit) := by
    refine fun message => Regime.follows_act trivial fun isOpen hisOpen => ?_
    obtain rfl : isOpen = true := hisOpen
    refine Regime.follows_act trivial fun current hcurrent => ?_
    obtain rfl : current = some session := hcurrent
    refine Regime.follows_act trivial fun _ _ => Regime.follows_act rfl fun _ _ => ?_
    exact nofun
  refine Regime.follows_act trivial fun _ _ => Regime.follows_act trivial fun _ _ => ?_
  refine Regime.follows_act trivial fun _ _ => Regime.follows_act trivial fun _ _ => ?_
  refine (hreset _).bind fun _ => (hreset _).bind fun _ => ?_
  exact Regime.follows_act trivial fun _ _ => nofun

/-- An open channel is fresh where the last of its queues was just created. -/
theorem fresh_of_queues {w : World} {queues : List Queue} {settings : PortSettings} {capacity : Nat}
    (hopen : w.channel.isOpen = true) (hqueues : w.channel.queues = queues ++ [Queue.create capacity])
    (hsettings : w.channel.settings = settings) : w.Fresh queues.length settings capacity where
  live := {
    isOpen := hopen
    current := by simp [session?, hqueues]
    settings_eq := hsettings
    queue := ⟨Queue.create capacity, by simp [hqueues], List.not_mem_nil⟩ }
  created := by simp [hqueues]

/-- Checking the settings alone changes nothing of the channel, and finds a baud rate that is not zero. -/
theorem of_reconfigure {task : Nat} {w w' : World}
    (h : reconfigure.alone task w = .ended (.ok ()) w') :
    w.channel.settings.baudRate ≠ 0 ∧ w'.channel = w.channel := by
  obtain ⟨_, _, _, hsettings, hchecking⟩ := Program.of_alone_perform_bind h rfl
  cases hsettings
  obtain ⟨rate, _, hchecked, hnoting⟩ := Program.alone_bind.1 hchecking
  obtain ⟨hcheck, rfl⟩ := Program.of_alone_ofExcept hchecked
  cases hnoting
  refine ⟨fun hzero => ?_, rfl⟩
  rw [hzero] at hcheck
  cases hcheck

/-- Opening a channel, with every other opening kept out, leaves it open, with an empty queue of its
capacity, under the same settings, of which the baud rate is not zero. -/
theorem fresh_of_openExclusively {task : Nat} {closed opened : World}
    (h : openExclusively.alone task closed = .ended (.ok ()) opened) :
    ∃ session, opened.Fresh session closed.channel.settings closed.channel.traits.capacity ∧
      closed.channel.settings.baudRate ≠ 0 := by
  -- Step by step, as the opening goes: where a step fails, it could not have succeeded.
  obtain ⟨isOpen, _, _, hopen, hbody⟩ := Program.of_alone_perform_bind h rfl
  cases hopen
  split at hbody
  · cases hbody
  next =>
    obtain ⟨_, _, _, hdropped, hnaming⟩ := Program.of_alone_perform_bind hbody rfl
    cases hdropped
    obtain ⟨address, _, _, haddress, hparsing⟩ := Program.of_alone_perform_bind hnaming rfl
    cases haddress
    split at hparsing
    · cases hparsing
    next text haddress =>
      obtain ⟨address, _, hparsed, hattaching⟩ := Program.alone_bind.1 hparsing
      obtain ⟨-, rfl⟩ := Program.of_alone_ofExcept hparsed
      obtain ⟨_, _, _, hattached, hchecking⟩ := Program.of_alone_perform_bind hattaching rfl
      cases hattached
      obtain ⟨_, checked, hchecked, hmeasuring⟩ := Program.alone_bind.1 hchecking
      obtain ⟨hbaud, hchannel⟩ := of_reconfigure hchecked
      have hsettings : checked.channel.settings = closed.channel.settings := by
        rw [hchannel]
        rfl
      have htraits : checked.channel.traits = closed.channel.traits := by
        rw [hchannel]
        rfl
      obtain ⟨traits, _, _, hmeasured, hbeginning⟩ := Program.of_alone_perform_bind hmeasuring rfl
      cases hmeasured
      split at hbeginning
      next =>
        obtain ⟨_, _, _, hbegun, hsetting⟩ := Program.of_alone_perform_bind hbeginning rfl
        cases hbegun
        obtain ⟨_, _, _, hset, hrest⟩ := Program.of_alone_perform_bind hsetting rfl
        cases hset
        rw [← hsettings, ← htraits]
        refine ⟨checked.channel.queues.length, ?_, hsettings ▸ hbaud⟩
        refine (opening_kept _ _ _).alone (follows_opening _ _ _ _) ?_ hrest
        exact fresh_of_queues rfl rfl rfl
      next => cases hbeginning

/-- Opening a channel alone leaves it open, with an empty queue of its capacity, under the same settings,
of which the baud rate is not zero. Nobody is kept out any more. -/
theorem fresh_of_openPort {task : Nat} {closed opened : World}
    (h : openPort.alone task closed = .ended (.ok ()) opened) :
    ∃ session, opened.Fresh session closed.channel.settings closed.channel.traits.capacity ∧
      closed.channel.settings.baudRate ≠ 0 ∧ opened.channel.changing = false := by
  obtain ⟨_, _, hentering, hbody⟩ := Program.alone_act.1 h
  obtain ⟨_, hentered⟩ := hentering.reply rfl
  simp only [Action.run] at hentered
  split at hentered
  · cases hentered
  cases hentered
  obtain ⟨w, _, hinner, hleaving⟩ := Program.of_alone_thenAlways hbody
  obtain ⟨_, hleft⟩ := hleaving.reply rfl
  cases hleft
  obtain ⟨session, hfresh, hbaud⟩ := fresh_of_openExclusively hinner
  exact ⟨session, ⟨hfresh.live.of_channel rfl rfl rfl, hfresh.created⟩, hbaud, rfl⟩

end Channel

end Loopback
