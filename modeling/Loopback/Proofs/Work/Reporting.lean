import Loopback.Config.Basic
import Loopback.Proofs.Channel.Tuning
import Loopback.Proofs.Work.Signalled

/-!
# What a channel reports of its settings

Operations are called one after another, through any end of a channel, while others may stay at work that change
neither its settings nor its address. Then the settings are what the calls have made of those that the channel was
built with, and its status tells them: the timeouts in whole milliseconds, of as many bits as fit. What a
configuration gives in milliseconds comes back as it was, whatever was called that is about something else.
-/

namespace Loopback

variable {ε δ α β : Type}

/-- What changes neither the settings of a channel nor its address. -/
def Action.Discreet (action : Action) : Prop := action.Untuned ∧ action.Unmoved

/-- A discreet operation takes discreet actions only. -/
theorem Operation.discreet {operation : Operation} (h : operation.Discreet) :
    operation.job.Obeys (.always Action.Discreet) [] :=
  (untuned h.1).and (unmoved h.2)

/-- What comes of working on a channel, with the operations that were called, latest first: discreet ones are added in
the background and move on at any time, and an operation that is called runs to its end, with their moves in
between. -/
inductive CalledBy (builder : Builder) : List Operation → Machine Failure Answer → Prop where
  | start : CalledBy builder [] (Machine.ofPrograms builder.world [])
  | spawn {calls : List Operation} {m : Machine Failure Answer} (operation : Operation) :
      CalledBy builder calls m → operation.Discreet → CalledBy builder calls (m.beside [operation.job])
  | pass {calls : List Operation} {m m' : Machine Failure Answer} {moves : List Move} {turns : List Turn} :
      CalledBy builder calls m → m.Run moves turns m' → CalledBy builder calls m'
  | call {calls : List Operation} {m m' : Machine Failure Answer} {moves : List Move} {turns : List Turn}
      {ending : Outcome Failure Answer} (operation : Operation) :
      CalledBy builder calls m → (m.beside [operation.job]).Run moves turns m' →
      m'.outcomeOf? m.tasks.length = some ending → CalledBy builder (operation :: calls) m'

namespace Machine

/-- That all tasks of a machine are discreet. -/
def Discreet (m : Machine Failure Answer) : Prop :=
  ∀ task p, m.programOf? task = some p → p.Obeys (.always Action.Discreet) []

variable {m m' : Machine Failure Answer} {moves : List Move} {turns : List Turn}

/-- While no task changes a view of the channel, it stays as it is. -/
theorem Run.keeps {γ : Type} {view : Channel → γ} {allowed : Action → Prop} (hrun : Run m moves turns m')
    (hobeys : ∀ task p, m.programOf? task = some p → p.Obeys (.always allowed) [])
    (hallowed : ∀ {task : Nat} {w w' : World} {action : Action} {answer : action.Reply}, allowed action →
      action.Comes task w answer w' → view w'.channel = view w.channel) :
    view m'.world.channel = view m.world.channel :=
  hrun.world (fun w => view w.channel = view m.world.channel) rfl (fun _ => id) fun turn hturn hkept =>
    (hallowed (hrun.always hturn (hobeys turn.task)) (hrun.comes hturn)).trans hkept

end Machine

namespace CalledBy

open Machine

variable {builder : Builder} {calls : List Operation} {m : Machine Failure Answer}

/-- Where all calls were discreet, the tasks of the machine are. -/
theorem discreet (h : CalledBy builder calls m) : m.Discreet := by
  induction h with
  | start => exact fun _ _ hp => nomatch hp
  | spawn operation _ hdiscreet ih =>
    exact forall_programOf?_beside ih (List.forall_mem_singleton.2 (Operation.discreet hdiscreet))
  | pass _ hrun ih => exact hrun.always_left ih
  | call operation _ hrun hended ih =>
    exact hrun.always_left_of_ended hended fun task p hne hp => ih task p (programOf?_of_beside hne hp)

/-- The settings are what the calls have made of those that the channel was built with. -/
theorem settings_eq (h : CalledBy builder calls m) :
    m.world.channel.settings = calls.foldr (fun call settings => call.tuned settings) builder.settings := by
  induction h with
  | start => rfl
  | spawn _ _ _ ih => exact ih
  | pass hcalled hrun ih =>
    rw [← ih]
    exact hrun.keeps hcalled.discreet fun hdiscreet hcomes => hcomes.frame.settings hdiscreet.1
  | @call calls m m' moves turns ending operation hcalled hrun hended ih =>
    rw [List.foldr_cons, ← ih]
    refine hrun.secured (programOf?_beside_length m operation.job) (operation.secures_tuned m.world)
      (fun turn hturn hne => ?_) hended
    have hothers := hrun.always hturn fun p hp => hcalled.discreet _ p (programOf?_of_beside hne hp)
    exact (hrun.comes hturn).frame.settings hothers.1

/-- The address is the one that the channel was built with, if it was given no other. -/
theorem address_eq (h : CalledBy builder calls m) (hcalls : ∀ call ∈ calls, call.kind ≠ .moving) :
    m.world.channel.address = builder.address := by
  induction h with
  | start => rfl
  | spawn _ _ _ ih => exact ih hcalls
  | pass hcalled hrun ih =>
    rw [← ih hcalls]
    exact hrun.keeps hcalled.discreet fun hdiscreet hcomes => hcomes.frame.address hdiscreet.2
  | call operation hcalled hrun _ ih =>
    rw [List.forall_mem_cons] at hcalls
    rw [← ih hcalls.2]
    refine hrun.keeps (forall_programOf?_beside ?_ (List.forall_mem_singleton.2 (Operation.unmoved hcalls.1)))
      fun hunmoved hcomes => hcomes.frame.address hunmoved
    exact fun task p hp => (hcalled.discreet task p hp).mono fun _ _ => And.right

/-- The traits are those that the channel was built with. -/
theorem traits_eq (h : CalledBy builder calls m) : m.world.channel.traits = builder.build.traits := by
  induction h with
  | start => rfl
  | spawn _ _ _ ih => exact ih
  | pass _ hrun ih => exact hrun.traits_eq.trans ih
  | call _ _ hrun _ ih => exact hrun.traits_eq.trans ih

end CalledBy

/-! ## What the status tells -/

/-- What discreet tasks leave of a channel. -/
def Channel.basis (c : Channel) : Traits × Option String × PortSettings :=
  (c.traits, c.address, c.settings)

/-- A discreet action leaves the traits, the address and the settings. -/
theorem Action.Comes.basis_eq {task : Nat} {w w' : World} {action : Action} {answer : action.Reply}
    (h : action.Comes task w answer w') (hdiscreet : action.Discreet) : w'.channel.basis = w.channel.basis := by
  simp only [Channel.basis, h.frame.traits, h.frame.address hdiscreet.2, h.frame.settings hdiscreet.1]

namespace Program

variable {γ : Type} {view : Channel → γ} {kept : γ} {ends : Outcome ε α → World → Prop} {w : World}

/-- A look at the channel is answered by the channel as it is then, of which a view is as before. -/
theorem attains_look {action : Action} {next : action.Reply → Program ε α} (hw : view w.channel = kept)
    (hnext : ∀ task w₁, view w₁.channel = kept → ∃ answer w₂ call, action.run task w₁ = .reply answer w₂ call ∧
      (next answer).Attains (Channel.keeping view) ends w₂) :
    (Program.act action next).Attains (Channel.keeping view) ends w :=
  attains_reply fun task w₁ hwithin => hnext task w₁ (hwithin.trans hw)

end Program

namespace Channel

open Program

section status

variable {γ : Type} {view : Channel → γ} {kept : γ} {w : World}

/-- Counting what waits comes to a count, or finds the channel closed. -/
theorem attains_inWaiting (hw : view w.channel = kept) :
    inWaiting.Attains (keeping view)
      (fun outcome w' => (∀ message, outcome ≠ .aborted message) ∧ view w'.channel = kept) w := by
  have hclosed : ∀ {w₁ w₂ : World}, view w₁.channel = kept → (keeping view).within w₁ w₂ →
      (∀ message, (.failed .notOpen : Outcome PortFailure Nat) ≠ .aborted message) ∧ view w₂.channel = kept := by
    intro w₁ w₂ hw₁ hwithin
    exact ⟨by simp, hwithin.trans hw₁⟩
  refine attains_look hw fun task w₁ hw₁ => ⟨_, w₁, none, rfl, ?_⟩
  cases w₁.channel.isOpen with
  | false => exact fun _ => hclosed hw₁
  | true =>
    refine attains_look hw₁ fun task w₂ hw₂ => ⟨_, w₂, none, rfl, ?_⟩
    cases w₂.channel.session? with
    | none => exact fun _ => hclosed hw₂
    | some session =>
      refine attains_look hw₂ fun task w₃ hw₃ => ?_
      obtain ⟨count, hcount⟩ : ∃ count, (Action.getLength session).run task w₃ = .reply count w₃ none := by
        change ∃ count, Action.atQueue w₃ session 0 (fun queue => .reply queue.length w₃ none) = .reply count w₃ none
        rw [Action.atQueue]
        cases w₃.channel.queues[session]? with
        | none | some => exact ⟨_, rfl⟩
      refine ⟨count, w₃, none, hcount, attains_look hw₃ fun task w₄ hw₄ => ⟨(), _, none, rfl, ?_⟩⟩
      exact fun _ hwithin => ⟨by simp, hwithin.trans hw₄⟩

/-- A count of what waits is made, or there is none. -/
theorem attains_counted (hw : view w.channel = kept) :
    (counted inWaiting : Program ε (Option Nat)).Attains (keeping view)
      (fun outcome w' => (∃ count, outcome = .ok count) ∧ view w'.channel = kept) w := by
  have hattempt : (inWaiting.attempt : Program ε _).Attains (keeping view)
      (fun outcome w' => (∃ result, outcome = .ok result) ∧ view w'.channel = kept) w := by
    refine Attains.attempt ((attains_inWaiting hw).mono fun outcome w' h => ⟨?_, h.2⟩)
    cases outcome with
    | aborted message => exact absurd rfl (h.1 message)
    | ok result | failed failure => exact ⟨_, rfl⟩
  refine hattempt.bind (fun result w' h => ?_) (fun _ _ h => nomatch h.1) fun _ _ h => nomatch h.1
  cases result with
  | ok | error => exact fun _ hwithin => ⟨⟨_, rfl⟩, hwithin.trans h.2⟩

/-- The lines and the diagnostics may be told, whatever they are. -/
theorem attains_lines {ends : Outcome ε α → World → Prop} (tell : Bool → Bool → Bool → Option Severity → α)
    (hw : view w.channel = kept)
    (hends : ∀ rts dtr brk level w', view w'.channel = kept → ends (.ok (tell rts dtr brk level)) w') :
    (do
      let requestToSend ← Program.getLine .requestToSend
      let dataTerminalReady ← Program.getLine .dataTerminalReady
      let breakCondition ← Program.getLine .breakCondition
      let diagnostics ← getDiagnostics
      pure (tell requestToSend dataTerminalReady breakCondition diagnostics)).Attains (keeping view) ends w := by
  refine attains_look hw fun task w₁ hw₁ => ⟨_, w₁, none, rfl, ?_⟩
  refine attains_look hw₁ fun task w₂ hw₂ => ⟨_, w₂, none, rfl, ?_⟩
  refine attains_look hw₂ fun task w₃ hw₃ => ⟨_, w₃, none, rfl, ?_⟩
  refine attains_look hw₃ fun task w₄ hw₄ => ⟨_, w₄, none, rfl, ?_⟩
  exact fun w' hwithin => hends _ _ _ _ w' (hwithin.trans hw₄)

/-- That a status tells what a channel is kept at: the capacity, the address and the settings. -/
structure Tells (c : Channel) (told : ChannelStatus) : Prop where
  address : told.address = c.address
  capacity : told.capacity = c.traits.capacity
  baudRate : told.baudRate = c.settings.baudRate
  readTimeout : told.readTimeoutMillis = c.settings.readTimeout.map Duration.saturatingMillis
  writeTimeout : told.writeTimeoutMillis = c.settings.writeTimeout.map Duration.saturatingMillis

/-- The status tells what the channel is kept at, whatever else others do meanwhile. -/
theorem attains_status {c : Channel} (hview : ∀ {c' : Channel}, view c' = view c → c'.basis = c.basis)
    (hw : view w.channel = view c) :
    (status : Program ε ChannelStatus).Attains (keeping view)
      (fun outcome w' => (∃ told, outcome = .ok told ∧ Tells c told) ∧ view w'.channel = view c) w := by
  have hbasis : ∀ {w' : World}, view w'.channel = view c →
      w'.channel.traits = c.traits ∧ w'.channel.address = c.address ∧ w'.channel.settings = c.settings := by
    intro w' hw'
    simpa only [basis, Prod.mk.injEq] using hview hw'
  refine attains_look hw fun task w₁ hw₁ => ⟨c.settings, w₁, none, by rw [← (hbasis hw₁).2.2]; rfl, ?_⟩
  refine attains_look hw₁ fun task w₂ hw₂ => ⟨_, w₂, none, rfl, ?_⟩
  refine attains_look hw₂ fun task w₃ hw₃ => ⟨c.address, w₃, none, by rw [← (hbasis hw₃).2.1]; rfl, ?_⟩
  refine attains_look hw₃ fun task w₄ hw₄ => ⟨c.traits, w₄, none, by rw [← (hbasis hw₄).1]; rfl, ?_⟩
  cases w₂.channel.isOpen with
  | false => exact attains_lines _ hw₄ fun _ _ _ _ _ hw' => ⟨⟨_, rfl, rfl, rfl, rfl, rfl, rfl⟩, hw'⟩
  | true =>
    refine (attains_counted hw₄).bind (fun count w₅ h => ?_) (fun _ _ h => nomatch h.1) fun _ _ h => nomatch h.1
    exact attains_lines _ h.2 fun _ _ _ _ _ hw' => ⟨⟨_, rfl, rfl, rfl, rfl, rfl, rfl⟩, hw'⟩

end status

end Channel

/-- Milliseconds are counted whole, and up to what 64 bits hold. -/
theorem Duration.saturatingMillis_eq :
    Duration.saturatingMillis = fun duration => min (duration.nanos / 1000000) (2 ^ 64 - 1) := by
  funext duration
  simp [saturatingMillis, nanosPerMilli, Text.max64]

/-- The timeout of a side, in milliseconds. -/
def ChannelStatus.timeoutMillis (status : ChannelStatus) : Side → Option Nat
  | .reading => status.readTimeoutMillis
  | .writing => status.writeTimeoutMillis

/-- The timeout of either side is told in whole milliseconds. -/
theorem Channel.Tells.timeoutMillis {c : Channel} {told : ChannelStatus} (h : c.Tells told) (side : Side) :
    told.timeoutMillis side = (c.settings.timeout side).map Duration.saturatingMillis := by
  cases side with
  | reading => exact h.readTimeout
  | writing => exact h.writeTimeout

namespace Machine

/-- That an operation called on a machine succeeds with a certain answer: with nobody else about, and whatever others do
meanwhile, once it has ended. -/
def Reports (m : Machine Failure Answer) (operation : Operation) (tells : Answer → Prop) : Prop :=
  (∀ task, ∃ answer w, operation.job.alone task m.world = .ended (.ok answer) w ∧ tells answer) ∧
    ∀ {moves turns m' outcome}, Run (m.beside [operation.job]) moves turns m' →
      m'.outcomeOf? m.tasks.length = some outcome → ∃ answer, outcome = .ok answer ∧ tells answer

variable {m : Machine Failure Answer} {operation : Operation} {tells tells' : Answer → Prop}

/-- What an operation reports may be told more weakly. -/
theorem Reports.mono (h : m.Reports operation tells) (himp : ∀ answer, tells answer → tells' answer) :
    m.Reports operation tells' := by
  refine ⟨fun task => ?_, fun hrun hended => ?_⟩
  · obtain ⟨answer, w, hended, htells⟩ := h.1 task
    exact ⟨answer, w, hended, himp answer htells⟩
  · obtain ⟨answer, houtcome, htells⟩ := h.2 hrun hended
    exact ⟨answer, houtcome, himp answer htells⟩

/-- What an operation attains beside discreet tasks it reports. -/
theorem Discreet.reports (h : m.Discreet) (hattains : operation.job.Attains (Channel.keeping Channel.basis)
      (fun outcome _ => ∃ answer, outcome = .ok answer ∧ tells answer) m.world) : m.Reports operation tells := by
  refine ⟨fun task => ?_, fun {moves turns m' outcome} hrun hended => ?_⟩
  · obtain ⟨_, w, hended, answer, rfl, htells⟩ := hattains.alone task
    exact ⟨answer, w, hended, htells⟩
  · refine hrun.attained (programOf?_beside_length m operation.job) hattains (fun turn hturn hne => ?_) hended
    exact (hrun.comes hturn).basis_eq (hrun.always hturn fun p hp => h _ p (programOf?_of_beside hne hp))

/-- Among discreet tasks a status tells what the channel is kept at. -/
theorem Discreet.reports_status (h : m.Discreet) :
    m.Reports (.channel .status) fun answer => ∃ told, answer = .status told ∧ m.world.channel.Tells told := by
  refine h.reports (Program.Attains.told ((Channel.attains_status id rfl).mono fun outcome _ htold => ?_))
  obtain ⟨⟨told, rfl, htells⟩, -⟩ := htold
  exact ⟨_, rfl, told, rfl, htells⟩

/-- Among discreet tasks the settings are told as they are. -/
theorem Discreet.reports_settings (h : m.Discreet) :
    m.Reports (.channel .getSettings) (· = .settings m.world.channel.settings) := by
  refine h.reports (Program.Attains.told (Program.attains_look rfl fun task w hw => ⟨_, w, none, rfl, fun _ _ => ?_⟩))
  have hsettings : w.channel.settings = m.world.channel.settings := congrArg (fun basis => basis.2.2) hw
  exact ⟨_, rfl, congrArg Answer.settings hsettings⟩

end Machine

/-! ## What was given -/

/-- That an operation gives one side a timeout. For a device the greatest duration stands for having none. -/
inductive Operation.Gives : Operation → Side → Option Duration → Prop where
  | channelReading (timeout : Option Duration) : Gives (.channel (.setReadTimeout timeout)) .reading timeout
  | channelWriting (timeout : Option Duration) : Gives (.channel (.setWriteTimeout timeout)) .writing timeout
  | adapter (timeout : Option Duration) : Gives (.adapter (.setReadTimeout timeout)) .reading timeout
  | background (timeout : Option Duration) : Gives (.background (.setReadTimeout timeout)) .reading timeout
  | device (duration : Duration) :
      Gives (.device (.setTimeout duration)) .reading (if duration = .max then none else some duration)
  | settings {settings : PortSettings} (hbaud : settings.baudRate ≠ 0) (side : Side) :
      Gives (.channel (.applySettings settings)) side (settings.timeout side)

/-- That an operation leaves the timeout of one side as it is. -/
def Operation.Spares (operation : Operation) (side : Side) : Prop :=
  ∀ settings, (operation.tuned settings).timeout side = settings.timeout side

/-- An operation that gives a side a timeout leaves it with that. -/
theorem Operation.Gives.timeout_eq {operation : Operation} {side : Side} {timeout : Option Duration}
    (h : operation.Gives side timeout) (settings : PortSettings) :
    (operation.tuned settings).timeout side = timeout := by
  cases h with
  | settings hbaud side => rw [Operation.tuned, ChannelOperation.tuned, if_neg hbaud]
  | _ => rfl

/-- Calls none of which changes a view of the settings leave it as it was. -/
theorem Operation.view_foldr_tuned {γ : Type} (view : PortSettings → γ) {calls : List Operation}
    {settings : PortSettings} (hkept : ∀ call ∈ calls, ∀ settings, view (call.tuned settings) = view settings) :
    view (calls.foldr (fun call settings => call.tuned settings) settings) = view settings := by
  induction calls with
  | nil => rfl
  | cons call calls ih =>
    rw [List.forall_mem_cons] at hkept
    exact (hkept.1 _).trans (ih hkept.2)

/-- That one side of a channel has a timeout that it was given by the calls, after which none has changed it. -/
inductive Machine.Given (m : Machine Failure Answer) (side : Side) (timeout : Option Duration) : Prop where
  | last {builder : Builder} (earlier later : List Operation) {operation : Operation}
      (hcalled : CalledBy builder (later ++ operation :: earlier) m) (hgives : operation.Gives side timeout)
      (hspares : ∀ call ∈ later, call.Spares side)

namespace CalledBy

open Machine

variable {builder : Builder} {calls : List Operation} {m : Machine Failure Answer}

/-- The settings of a channel that is only worked on discreetly stay those that it was built with. -/
theorem settings_eq_of_discreet (h : CalledBy builder calls m) (hcalls : ∀ call ∈ calls, call.Discreet) :
    m.world.channel.settings = builder.settings := by
  rw [h.settings_eq]
  exact Operation.view_foldr_tuned id fun call hcall => Operation.tuned_of_kind_ne (hcalls call hcall).1

/-- A side reports its timeout in whole milliseconds, or as many as 64 bits can tell if there are more. -/
theorem reports_timeout (h : CalledBy builder calls m) (side : Side) :
    m.Reports (.channel .status) fun answer => ∃ told, answer = .status told ∧ told.timeoutMillis side =
      (m.world.channel.settings.timeout side).map fun duration => min (duration.nanos / 1000000) (2 ^ 64 - 1) := by
  refine h.discreet.reports_status.mono fun answer ⟨told, hanswer, htells⟩ => ⟨told, hanswer, ?_⟩
  rw [htells.timeoutMillis, Duration.saturatingMillis_eq]

end CalledBy

namespace Machine.Given

variable {m : Machine Failure Answer} {side : Side} {timeout : Option Duration}

/-- A side has the timeout that it was given. -/
theorem timeout_eq (h : m.Given side timeout) : m.world.channel.settings.timeout side = timeout := by
  obtain ⟨earlier, later, hcalled, hgives, hspares⟩ := h
  rw [hcalled.settings_eq, List.foldr_append, List.foldr_cons]
  exact (Operation.view_foldr_tuned (·.timeout side) hspares).trans (hgives.timeout_eq _)

/-- A side reports the timeout that it was given. -/
theorem reports (h : m.Given side timeout) :
    m.Reports (.channel .status) fun answer => ∃ told, answer = .status told ∧
      told.timeoutMillis side = timeout.map fun duration => min (duration.nanos / 1000000) (2 ^ 64 - 1) := by
  have htimeout := h.timeout_eq
  obtain ⟨earlier, later, hcalled, hgives, hspares⟩ := h
  rw [← htimeout]
  exact hcalled.reports_timeout side

end Machine.Given

/-- The status that a configuration is to come to. -/
structure ChannelConfig.ToldBy (c : ChannelConfig) (told : ChannelStatus) : Prop where
  readTimeout : told.readTimeoutMillis = c.readTimeoutMillis.map UInt64.toNat
  writeTimeout : told.writeTimeoutMillis = c.writeTimeoutMillis.map UInt64.toNat
  baudRate : told.baudRate = c.baudRate
  address : told.address = some c.address
  capacity : told.capacity = max c.capacity.toNat 1

namespace ChannelConfig

/-- Milliseconds of 64 bits come back as they were. -/
theorem saturatingMillis_duration (millis : UInt64) : (duration millis).saturatingMillis = millis.toNat := by
  have hbits : millis.toNat ≤ Text.max64 := by
    have := millis.toNat_lt
    simp only [Text.max64]
    omega
  rw [duration, Duration.saturatingMillis_ofMillis hbits]

/-- A number of milliseconds is told as it was given. -/
theorem map_saturatingMillis_duration (millis : Option UInt64) :
    (millis.map duration).map Duration.saturatingMillis = millis.map UInt64.toNat := by
  cases millis with
  | none => rfl
  | some millis => exact congrArg some (saturatingMillis_duration millis)

end ChannelConfig

namespace CalledBy

open Machine

/-- Calls made one after another are calls on the channel. -/
theorem callEach? {builder : Builder} {calls calls' : List Completed} {earlier : List Operation}
    {m last : Machine Failure Answer} (h : CalledBy builder earlier m) {operations : List (Operation × Nat)}
    (hcalls : m.callEach? calls operations = some (calls', last)) :
    CalledBy builder ((operations.map Prod.fst).reverse ++ earlier) last := by
  induction operations generalizing m calls earlier with
  | nil =>
    cases hcalls
    exact h
  | cons entry rest ih =>
    obtain ⟨_, _, _, _, hrun, hended, hrest⟩ := exists_of_callEach?_cons hcalls
    rw [List.map_cons, List.reverse_cons, List.append_assoc]
    exact ih (h.call entry.1 hrun hended) hrest

/-- Whatever is called on a channel that is not about its settings or its address, it answers the settings of the
configuration that it was built from, and its status tells the timeouts, the rate, the address and the capacity of
that, closed or open. A timeout that one of its sides is given reads there as its whole milliseconds, or as the greatest
number of 64 bits if there are more, and a longer timeout never reads as a smaller number. -/
theorem reported_exactly :
    (∀ {c : ChannelConfig} {calls : List Operation} {m : Machine Failure Answer}, CalledBy c.builder calls m →
      (∀ call ∈ calls, call.Discreet) →
      m.Reports (.channel .getSettings) (· = .settings c.settings) ∧
        m.Reports (.channel .status) fun answer => ∃ told, answer = .status told ∧ c.ToldBy told) ∧
    (∀ {m : Machine Failure Answer} {side : Side} {timeout : Option Duration}, m.Given side timeout →
      m.Reports (.channel .status) fun answer => ∃ told, answer = .status told ∧
        told.timeoutMillis side = timeout.map fun duration => min (duration.nanos / 1000000) (2 ^ 64 - 1)) ∧
    (∀ {m m' : Machine Failure Answer} {side side' : Side} {duration duration' : Duration},
      m.Given side (some duration) → m'.Given side' (some duration') → duration.nanos ≤ duration'.nanos →
      ∃ millis millis', millis ≤ millis' ∧
        (m.Reports (.channel .status) fun answer => ∃ told, answer = .status told ∧
          told.timeoutMillis side = some millis) ∧
        m'.Reports (.channel .status) fun answer => ∃ told, answer = .status told ∧
          told.timeoutMillis side' = some millis') := by
  refine ⟨fun {c calls m} hcalled hcalls => ?_, fun hgiven => hgiven.reports, ?_⟩
  · have hsettings := hcalled.settings_eq_of_discreet hcalls
    refine ⟨?_, ?_⟩
    · rw [← show m.world.channel.settings = c.settings from hsettings]
      exact hcalled.discreet.reports_settings
    · refine hcalled.discreet.reports_status.mono fun answer ⟨told, hanswer, htells⟩ => ⟨told, hanswer, ?_⟩
      constructor
      · rw [htells.readTimeout, hsettings]
        exact ChannelConfig.map_saturatingMillis_duration _
      · rw [htells.writeTimeout, hsettings]
        exact ChannelConfig.map_saturatingMillis_duration _
      · rw [htells.baudRate, hsettings]
        rfl
      · rw [htells.address, hcalled.address_eq fun call hcall => (hcalls call hcall).2]
        rfl
      · rw [htells.capacity, hcalled.traits_eq]
        rfl
  · intro m m' side side' duration duration' hgiven hgiven' hle
    refine ⟨_, _, ?_, hgiven.reports, hgiven'.reports⟩
    have hmillis : duration.nanos / 1000000 ≤ duration'.nanos / 1000000 := Nat.div_le_div_right hle
    exact Nat.le_min.2 ⟨Nat.le_trans (Nat.min_le_left ..) hmillis, Nat.min_le_right ..⟩

/-- A configuration with the longest timeout for reading and none at all for writing, at the highest rate, that asks
for no room. -/
def extreme : ChannelConfig :=
  { ChannelConfig.default with
    capacity := 0
    baudRate := 4294967295
    readTimeoutMillis := some 18446744073709551615
    writeTimeoutMillis := some 0
    closeSettleMillis := 0 }

/-- What is called before the status is asked for, each with as many acts as it takes. -/
def extremeWork : List (Operation × Nat) := [(.channel .openPort, 26), (.channel .closePort, 12)]

/-- A configuration of extremes is told as it is before, while and after its channel is open, and so are timeouts that
are no whole milliseconds or too many. -/
theorem reported_exactly_extreme :
    (∀ count ≤ 2, ∃ m, CalledBy extreme.builder (((extremeWork.take count).map Prod.fst).reverse ++ []) m ∧
      m.world.channel.isOpen = decide (count = 1) ∧
      m.Reports (.channel .getSettings) (· = .settings extreme.settings) ∧
      m.Reports (.channel .status) fun answer => ∃ told, answer = .status told ∧
        told.readTimeoutMillis = some 18446744073709551615 ∧ told.writeTimeoutMillis = some 0 ∧
        told.baudRate = 4294967295 ∧ told.address = some "loop://" ∧ told.capacity = 1) ∧
    ∃ m m' : Machine Failure Answer, m.Given .reading (some ⟨1999999⟩) ∧ m'.Given .writing (some .max) ∧
      (m.Reports (.channel .status) fun answer => ∃ told, answer = .status told ∧ told.readTimeoutMillis = some 1) ∧
      (m'.Reports (.channel .status) fun answer => ∃ told, answer = .status told ∧
        told.writeTimeoutMillis = some 18446744073709551615) ∧
      ∃ millis millis', millis ≤ millis' ∧
        (m.Reports (.channel .status) fun answer => ∃ told, answer = .status told ∧
          told.readTimeoutMillis = some millis) ∧
        m'.Reports (.channel .status) fun answer => ∃ told, answer = .status told ∧
          told.writeTimeoutMillis = some millis' := by
  obtain ⟨hconfigured, hgiven, hmono⟩ := reported_exactly
  constructor
  · intro count hcount
    have hcalls : ((Machine.ofPrograms extreme.builder.world []).callEach? [] (extremeWork.take count)).map
        (fun done => done.2.world.channel.isOpen) = some (decide (count = 1)) := by
      revert count
      decide +kernel
    obtain ⟨⟨calls, m⟩, hm, hopen⟩ := Option.map_eq_some_iff.1 hcalls
    have hcalled : CalledBy extreme.builder _ m := CalledBy.start.callEach? hm
    have hdiscreet : ∀ count ≤ 2, ∀ call ∈ ((extremeWork.take count).map Prod.fst).reverse ++ [], call.Discreet := by
      decide
    obtain ⟨hsettings, hstatus⟩ := hconfigured hcalled (hdiscreet count hcount)
    refine ⟨m, hcalled, hopen, hsettings, hstatus.mono fun answer ⟨told, hanswer, htold⟩ => ⟨told, hanswer, ?_⟩⟩
    exact ⟨htold.readTimeout, htold.writeTimeout, htold.baudRate, htold.address, htold.capacity⟩
  · have hcalls : (((Machine.ofPrograms (Builder.ofAddress "loop://").world []).callEach? []
        [(.device (.setTimeout ⟨1999999⟩), 1), (.channel .openPort, 26)]).isSome &&
        ((Machine.ofPrograms (Builder.ofAddress "loop://").world []).callEach? []
          [(.channel (.setWriteTimeout (some .max)), 1)]).isSome) = true := by
      decide +kernel
    obtain ⟨hm, hm'⟩ := Bool.and_eq_true_iff.1 hcalls
    obtain ⟨⟨calls, m⟩, hm⟩ := Option.isSome_iff_exists.1 hm
    obtain ⟨⟨calls', m'⟩, hm'⟩ := Option.isSome_iff_exists.1 hm'
    have hreading : m.Given .reading (some ⟨1999999⟩) := by
      have hcalled := CalledBy.start.callEach? hm
      have hgives : (Operation.device (.setTimeout ⟨1999999⟩)).Gives .reading (some ⟨1999999⟩) := .device ⟨1999999⟩
      exact .last [] [.channel .openPort] hcalled hgives (List.forall_mem_singleton.2 fun _ => rfl)
    have hwriting : m'.Given .writing (some .max) :=
      .last [] [] (CalledBy.start.callEach? hm') (.channelWriting (some .max)) (List.forall_mem_nil _)
    exact ⟨m, m', hreading, hwriting, hgiven hreading, hgiven hwriting, hmono hreading hwriting (by decide)⟩

/-- The longest duration that a device is given is not reported, since there it stands for having no timeout. -/
theorem not_always_reported :
    ¬ ∀ {builder : Builder} {calls : List Operation} {m : Machine Failure Answer} (duration : Duration),
      CalledBy builder (.device (.setTimeout duration) :: calls) m →
      m.Reports (.channel .status) fun answer => ∃ told, answer = .status told ∧
        told.readTimeoutMillis = some (min (duration.nanos / 1000000) (2 ^ 64 - 1)) := by
  intro hreported
  have hcalls : ((Machine.ofPrograms (Builder.ofAddress "loop://").world []).callEach? []
      [(.device (.setTimeout .max), 1)]).isSome := by
    decide +kernel
  obtain ⟨⟨calls, m⟩, hm⟩ := Option.isSome_iff_exists.1 hcalls
  have hcalled : CalledBy _ [.device (.setTimeout .max)] m := CalledBy.start.callEach? hm
  have hgives : (Operation.device (.setTimeout .max)).Gives .reading none := .device .max
  have hgiven : m.Given .reading none := .last [] [] hcalled hgives (List.forall_mem_nil _)
  obtain ⟨_, w, hended, told, rfl, htold⟩ := (hreported .max hcalled).1 0
  obtain ⟨_, w', hended', told', rfl, htold'⟩ := hgiven.reports.1 0
  cases hended.symm.trans hended'
  cases htold.symm.trans htold'

end CalledBy

end Loopback
