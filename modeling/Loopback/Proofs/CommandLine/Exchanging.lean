import Loopback.CommandLine.Echo
import Loopback.Proofs.Work.Reporting

/-!
# Around an echo

The tasks of an echo neither open nor close the channel, and keep nobody out. So when they have ended, the command
finds the channel open: it tells its status, closes it, and answers what came of the echo.
-/

namespace Loopback.CommandLine

variable {world : World} {session : Session} {settings : PortSettings}

/-- The first task of an echo: it sends the message. -/
def Echo.sending (message : List UInt8) : Background.Operation EchoPart := do
  return .sent (← Background.writeBytes message)

/-- The second task of an echo: it reads so many bytes. -/
def Echo.receiving (size : Nat) : Background.Operation EchoPart := do
  return .received (← Background.readBytes size)

/-- The programs of the two tasks. -/
theorem Echo.machine_eq (world : World) (message : List UInt8) :
    machine world message = Machine.ofPrograms world [sending message, receiving message.length] := rfl

/-- The tasks of an echo keep nobody out of a channel that nobody is kept out of. -/
theorem Echo.free_machine (hfree : world.channel.changing = false) (message : List UInt8) :
    (machine world message).Free := by
  refine ⟨hfree, fun task p hp => ?_⟩
  rw [machine_eq, Machine.programOf?_ofPrograms] at hp
  have hinner : ∀ p ∈ [sending message, receiving message.length],
      p.Obeys (.always fun action => action.inner = true) [] := by
    refine List.forall_mem_cons.2 ⟨?_, List.forall_mem_singleton.2 ?_⟩
    · have hwrite : (Channel.write message).Obeys (.always fun action => action.inner = true) [] :=
        Program.inner_of_plain (by decide) (Channel.obeys_write message)
      exact ((hwrite.mapFailure _).sheltered _).bind fun _ _ => Program.obeys_done
    · have hread : (Channel.read message.length).Obeys (.always fun action => action.inner = true) [] :=
        Program.inner_of_plain (by decide) (Channel.obeys_read message.length)
      exact ((hread.mapFailure _).sheltered _).bind fun _ _ => Program.obeys_done
  exact hinner p (List.mem_of_getElem? hp)

/-- Where the channel is open and nobody is kept out, its status is told, it is closed, and the echo is answered. -/
theorem closing_ends (task : Nat) (hopen : world.channel.isOpen = true)
    (hsession : world.channel.session? = some session) (hfree : world.channel.changing = false) (echo : Echo) :
    ∃ status closed, (closing (.ok echo)).alone task world = .ended (.ok (echo, status)) closed := by
  have htells : (Channel.status : Background.Operation ChannelStatus).Attains (Channel.keeping id)
      (fun outcome w => (∃ told, outcome = .ok told ∧ world.channel.Tells told) ∧ w.channel = world.channel) world :=
    Channel.attains_status (fun heq => congrArg Channel.basis heq) rfl
  obtain ⟨_, w, hstatus, ⟨status, rfl, -⟩, hsame⟩ := htells.alone task
  have hcloses : (Channel.closePort : Channel.Operation Unit).Makes (fun _ => False)
      (fun outcome c => outcome = .ok () ∧ c = world.channel.shut) world.channel :=
    Channel.makes_closePort hopen hsession hfree
  obtain ⟨_, closed, hclosed, _, ⟨rfl, -⟩, -⟩ := (hcloses w (hsame ▸ .refl _ _)).alone task
  refine ⟨status, closed, Program.alone_bind.2 ⟨status, w, hstatus, Program.alone_bind.2 ⟨(), closed, ?_, rfl⟩⟩⟩
  exact Program.alone_sheltered.2 (Program.alone_mapFailure.2 hclosed)

end Loopback.CommandLine
