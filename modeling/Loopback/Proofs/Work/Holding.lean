import Loopback.Proofs.Channel.Content
import Loopback.Proofs.Work.Checks
import Loopback.Proofs.Work.Worked

/-!
# An open channel holds bytes

A channel is set open only by a task that has seen its capacity to fit the memory. So whatever was called on a
channel, and whatever is still going on in the background, an open one holds certain bytes in the queue of its
session, and nothing else.
-/

namespace Loopback

/-- A channel is set open only where its capacity was seen to fit the memory. -/
def roomy : Rule := fun seen action =>
  action = .setOpen true → ∃ traits, ⟨.getTraits, traits⟩ ∈ seen ∧ Queue.fitsMemory traits.capacity = true

/-- Every operation sees that the capacity fits before it sets the channel open. -/
theorem Operation.roomy (operation : Operation) : operation.job.Obeys roomy [] :=
  operation.checking.mono fun _ _ hchecking hopens => (hchecking hopens).room

/-- If the channel is open, its capacity fits the memory. -/
def World.Fits (w : World) : Prop := w.channel.isOpen = true → Queue.fitsMemory w.channel.traits.capacity = true

namespace Machine

variable {ε α : Type} {start m : Machine ε α} {moves : List Move} {turns : List Turn}

/-- The traits of a channel are kept by every run. -/
theorem Run.traits_eq (hrun : Run start moves turns m) : m.world.channel.traits = start.world.channel.traits := by
  refine hrun.world (fun w => w.channel.traits = start.world.channel.traits) rfl (fun _ => id) fun turn hturn h => ?_
  exact (hrun.comes hturn).frame.traits.trans h

/-- Where a channel is set open, its capacity fits the memory. -/
theorem Run.fits_of_setOpen (hrun : Run start moves turns m)
    (hroomy : ∀ task p, start.programOf? task = some p → p.Obeys roomy []) {turn : Turn} (hturn : turn ∈ turns)
    (hopens : turn.deed.action = .setOpen true) :
    Queue.fitsMemory start.world.channel.traits.capacity = true := by
  obtain ⟨before, after, rfl⟩ := List.append_of_mem hturn
  obtain ⟨traits, hseen, hfits⟩ := hrun.obeys (hroomy turn.task) hopens
  obtain ⟨earlier, looking, later, rfl, -, hlooked⟩ := exists_turn_of_mem_deedsOf hseen
  rw [List.append_assoc, List.cons_append] at hrun
  obtain ⟨_, m₁, w, hfirst, hcomes⟩ := hrun.meets
  rw [hlooked] at hcomes
  obtain ⟨_, hrun₁⟩ := hcomes.reply rfl
  cases hrun₁
  exact hfirst.traits_eq ▸ hfits

/-- Tasks that set a channel open only where it fits the memory leave it so. -/
theorem Run.fits (hrun : Run start moves turns m)
    (hroomy : ∀ task p, start.programOf? task = some p → p.Obeys roomy []) (hstart : start.world.Fits) :
    m.world.Fits := by
  rw [World.Fits, hrun.traits_eq]
  refine hrun.world (fun w => w.channel.isOpen = true → Queue.fitsMemory start.world.channel.traits.capacity = true)
    hstart (fun _ => id) fun turn hturn hbefore hopen => ?_
  have hcomes := hrun.comes hturn
  by_cases hset : ∃ isOpen, turn.deed.action = .setOpen isOpen
  · obtain ⟨task, ⟨action, answer⟩, before, after⟩ := turn
    obtain ⟨isOpen, rfl⟩ := hset
    obtain rfl : isOpen = true := hcomes.isOpen_of_set.symm.trans hopen
    exact hrun.fits_of_setOpen hroomy hturn rfl
  · exact hbefore ((hcomes.frame.isOpen (not_exists.1 hset)).symm.trans hopen)

end Machine

namespace Worked

variable {builder : Builder} {m : Machine Failure Answer}

/-- Background tasks never set a channel open. -/
theorem obeys_roomy (h : Worked builder m) : ∀ task p, m.programOf? task = some p → p.Obeys roomy [] := by
  intro task p hp
  refine (h.steady.sparing task p hp).mono fun seen action hsparing hopens => ?_
  rw [Rule.always, hopens] at hsparing
  exact hsparing.elim

/-- Whatever was worked on a channel, its capacity fits the memory if it is open. -/
theorem fits (h : Worked builder m) : m.world.Fits := by
  induction h with
  | start => exact nofun
  | spawn operation _ _ ih => exact ih
  | pass hworked hrun ih => exact hrun.fits hworked.obeys_roomy ih
  | call operation hworked hrun _ ih =>
    refine hrun.fits (Machine.forall_programOf?_beside hworked.obeys_roomy ?_) ih
    exact List.forall_mem_singleton.2 operation.roomy

/-- Whatever was called on a channel, if it is open it holds certain bytes, and nothing else. -/
theorem exists_holds (h : Worked builder m) (hopen : m.world.channel.isOpen = true) :
    ∃ session bytes, m.world.Holds session bytes := by
  obtain ⟨htidy, hinOrder, -⟩ := h.steady
  obtain ⟨⟨session, q, hsession, hq, hmark⟩, -, -⟩ := hinOrder hopen
  have hcapacity := (htidy.queues hq).capacity_eq
  obtain ⟨bytes, hbytes, hlength, hle⟩ := (htidy.queues hq).bytes hmark
  rw [← htidy.traits_eq] at hcapacity hle
  exact ⟨session, bytes, hopen, hsession, h.fits hopen, q, hq, hcapacity, hlength, hbytes, hle⟩

end Worked

end Loopback
