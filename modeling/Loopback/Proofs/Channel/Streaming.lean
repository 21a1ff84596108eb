import Mathlib.Data.List.SplitLengths
import Loopback.Endpoint.Stream
import Loopback.Proofs.Channel.Receiving
import Loopback.Proofs.Machine.Series

/-!
# A stream is read as it is, however it is cut

A stream that is left alone yields the first of the bytes that the channel holds, as many as a read has room for,
whatever the read timeout. So reads one after another cut the bytes into pieces of their sizes, and what is read
altogether depends on the sum of the sizes only. Where nothing is held a read times out, and takes nothing, and
the longer readings follow from that.
-/

namespace Loopback.Stream

open Program

/-- All that was held has been taken, and the timeout of the next wait has passed. -/
def Drained (session : Session) (timeout : Option Duration) (w w' : World) : Prop :=
  Duration.deadline? w.now timeout ≠ none ∧ w.Becomes session [] [] w'

/-- All that was held has been taken, and the clock cannot hold the end of the next wait. -/
def Starves (session : Session) (timeout : Option Duration) (w w' : World) : Prop :=
  Duration.deadline? w'.now timeout = none ∧ w.Becomes session [] [] w'

variable {ε : Type} {session : Session} {held before : List UInt8} {byte : UInt8} {timeout : Option Duration}
  {w w₁ w' : World}

/-- What was drained after nothing had changed was drained from the start. -/
theorem Drained.trans (hw₁ : w.Becomes session before [] w₁) (h : Drained session timeout w₁ w') :
    Drained session timeout w w' :=
  ⟨fun hnone => h.1 (hw₁.deadline?_eq_none hnone), hw₁.trans h.2⟩

/-- What starves after nothing had changed starves from the start. -/
theorem Starves.trans (hw₁ : w.Becomes session before [] w₁) (h : Starves session timeout w₁ w') :
    Starves session timeout w w' :=
  ⟨h.1, hw₁.trans h.2⟩

section read

/-- The first byte that is held is read without waiting. -/
theorem brings_first (hw : w.Holds session (byte :: held)) :
    (ofChannel (Channel.read 1)).EndsIn (.ok [byte]) (w.Becomes session held []) (fun _ => False) w := by
  have hread : (Channel.read 1).EndsIn (.ok [byte]) (w.Becomes session held []) (fun _ => False) w := by
    refine Brings.mono (Channel.brings_read hw rfl 1) ?_ fun p w' h => absurd h.lacks (by simp)
    rintro _ w' ⟨got, left, rfl, hgot⟩
    have hone : got.length = 1 := Nat.le_antisymm hgot.length_le (by simpa using hgot.first)
    obtain ⟨first, rfl⟩ := List.length_eq_one_iff.1 hone
    obtain ⟨rfl, rfl⟩ := List.cons.inj hgot.held_eq
    exact ⟨rfl, hgot.becomes⟩
  exact hread.mapFailure _

/-- A read takes the first of the bytes that are held, as many as it has room for. -/
theorem brings_read (hw : w.Holds session held) (hheld : held ≠ []) {size : Nat} (hsize : 0 < size) :
    (read size).EndsIn (.ok (held.take size)) (w.Becomes session (held.drop size) []) (fun _ => False) w := by
  cases size with
  | zero => exact absurd hsize (Nat.lt_irrefl 0)
  | succ size =>
    cases held with
    | nil => exact absurd rfl hheld
    | cons byte held =>
      refine (brings_first hw).bind (fun w₁ hw₁ => ?_) fun _ _ => id
      refine ((Channel.brings_readAvailable size (hw₁.holds hw)).mapFailure _).bind (fun w₂ hw₂ => ?_) fun _ _ => id
      exact fun w₃ hlater => ⟨rfl, (hw₁.trans hw₂).later hlater⟩

/-- Where nothing is held, a read times out. -/
theorem brings_read_nil (hw : w.Holds session []) (htimeout : w.channel.settings.readTimeout = timeout)
    {size : Nat} (hsize : 0 < size) :
    (read size).EndsIn (.failed timedOut) (Drained session timeout w) (Starves session timeout w) w := by
  cases size with
  | zero => exact absurd hsize (Nat.lt_irrefl 0)
  | succ size =>
    have hfirst : (Channel.read 1).EndsIn (.ok []) (Drained session timeout w) (Starves session timeout w) w := by
      refine Brings.mono (Channel.brings_read hw htimeout 1) ?_ fun p w' h => ⟨h.endless, h.becomes⟩
      rintro _ w' ⟨got, left, rfl, hgot⟩
      obtain ⟨rfl, rfl⟩ := List.append_eq_nil_iff.1 hgot.held_eq.symm
      exact ⟨rfl, fun hnone => Nat.zero_ne_one (hgot.endless hnone), hgot.becomes⟩
    refine (hfirst.mapFailure _).bind (fun w₁ hw₁ => ?_) fun _ _ => id
    refine brings_look .getOpen true (fun w₂ hlater => ?_) fun w₂ hlater w₃ hmore => ?_
    · rw [Action.run, hlater.channel_eq, (hw₁.2.holds hw).isOpen]
    · exact ⟨rfl, hw₁.1, hw₁.2.later (hlater.trans hmore)⟩

end read

section pieces

/-- Pieces of certain sizes are, put together, as much as their sizes allow. -/
theorem flatten_pieces (sizes : List Nat) (held : List UInt8) :
    (sizes.splitLengths held).flatten = held.take sizes.sum := by
  induction sizes generalizing held with
  | nil => rw [List.splitLengths_nil, List.flatten_nil, List.sum_nil, List.take_zero]
  | cons size sizes ih =>
    rw [List.splitLengths_cons, List.flatten_cons, ih, List.sum_cons, List.take_add]

/-- Reads one after another cut what is held into pieces of their sizes. -/
theorem brings_series (sizes : List Nat) (hw : w.Holds session held) (hsizes : ∀ size ∈ sizes, 0 < size)
    (hheld : ∀ count < sizes.length, (sizes.take count).sum < held.length) :
    (series (sizes.map read) : Program ε (List (Except IoFailure (List UInt8)))).EndsIn
      (.ok ((sizes.splitLengths held).map .ok)) (w.Becomes session (held.drop sizes.sum) []) (fun _ => False) w := by
  induction sizes generalizing held w with
  | nil => exact fun w' hlater => ⟨rfl, hw.becomes.later hlater⟩
  | cons size sizes ih =>
    obtain ⟨hsize, hsizes⟩ := List.forall_mem_cons.1 hsizes
    have hsome : held ≠ [] := List.length_pos_iff.1 (hheld 0 (Nat.succ_pos _))
    have hleft : ∀ count < sizes.length, (sizes.take count).sum < (held.drop size).length := fun count hcount => by
      have := hheld (count + 1) (Nat.succ_lt_succ hcount)
      rw [List.take_succ_cons, List.sum_cons] at this
      rw [List.length_drop]
      omega
    refine (brings_read hw hsome hsize).attempt.bind (fun w₁ hw₁ => ?_) fun _ _ => id
    refine (ih (hw₁.holds hw) hsizes hleft).bind (fun w₂ hw₂ w₃ hlater => ?_) fun _ _ => id
    refine ⟨by simp, ?_⟩
    rw [List.sum_cons, ← List.drop_drop]
    exact (hw₁.trans hw₂).later hlater

end pieces

section exactly

/-- As many bytes as are held can be read exactly. -/
theorem brings_readExact_le (hw : w.Holds session held) {size : Nat} (hsize : size ≤ held.length) :
    (readExact size).EndsIn (.ok (held.take size)) (w.Becomes session (held.drop size) []) (fun _ => False) w := by
  cases size with
  | zero => exact fun w' hlater => ⟨rfl, hw.becomes.later hlater⟩
  | succ size =>
    cases held with
    | nil => exact absurd hsize (Nat.not_succ_le_zero _)
    | cons byte held =>
      refine (brings_read hw (List.cons_ne_nil _ _) (Nat.succ_pos size)).bind (fun w₁ hw₁ => ?_) fun _ _ => id
      have hmissing : size + 1 - (byte :: held.take size).length = 0 := by
        rw [List.length_cons, List.length_take, Nat.min_eq_left (Nat.le_of_succ_le_succ hsize), Nat.sub_self]
      simp only [List.take_succ_cons, hmissing, readExactly]
      exact fun w₂ hlater => ⟨rfl, hw₁.later hlater⟩

/-- Where nothing is held, no more bytes can be read exactly. -/
theorem brings_readExactly_nil (hw : w.Holds session []) (htimeout : w.channel.settings.readTimeout = timeout)
    {limit missing : Nat} (taken : List UInt8) (hmissing : 0 < missing) (hlimit : 0 < limit) :
    (readExactly limit missing taken).EndsIn (.failed timedOut) (Drained session timeout w)
      (Starves session timeout w) w := by
  obtain ⟨limit, rfl⟩ := Nat.exists_eq_succ_of_ne_zero hlimit.ne'
  obtain ⟨missing, rfl⟩ := Nat.exists_eq_succ_of_ne_zero hmissing.ne'
  refine Brings.bind (brings_read_nil hw htimeout (Nat.succ_pos missing)) (fun _ _ h => nomatch h.1) ?_
    (fun _ _ h => nomatch h.1) fun _ _ => id
  rintro failure w₁ ⟨hfailed, h⟩
  cases hfailed
  exact ⟨rfl, h⟩

/-- More bytes than are held cannot be read exactly, and all that are held are taken. -/
theorem brings_readExact_lt (hw : w.Holds session held) (htimeout : w.channel.settings.readTimeout = timeout)
    {size : Nat} (hsize : held.length < size) :
    (readExact size).EndsIn (.failed timedOut) (Drained session timeout w) (Starves session timeout w) w := by
  cases held with
  | nil => exact brings_readExactly_nil hw htimeout [] hsize hsize
  | cons byte held =>
    obtain ⟨size, rfl⟩ := Nat.exists_eq_succ_of_ne_zero (Nat.ne_of_gt (Nat.zero_lt_of_lt hsize))
    have hle : (byte :: held).length ≤ size + 1 := hsize.le
    rw [List.length_cons, Nat.succ_lt_succ_iff] at hsize
    refine (brings_read hw (List.cons_ne_nil _ _) (Nat.succ_pos size)).bind (fun w₁ hw₁ => ?_) fun _ _ => False.elim
    rw [List.drop_of_length_le hle] at hw₁
    rw [List.take_of_length_le hle]
    refine Brings.mono (brings_readExactly_nil (hw₁.holds hw) (hw₁.settings_eq ▸ htimeout) _ ?_ ?_)
      (fun _ _ h => ⟨h.1, h.2.trans hw₁⟩) fun _ _ h => h.trans hw₁
    · rw [List.length_cons]
      omega
    · omega

end exactly

section toEnd

/-- Chunks are read until nothing is held. -/
theorem brings_readChunks {fuel : Nat} (taken : List (List UInt8)) (hw : w.Holds session held)
    (htimeout : w.channel.settings.readTimeout = timeout) (hfuel : held.length < fuel) :
    (readChunks fuel taken : Program ε Collected).EndsIn (.ok ⟨.error timedOut, taken.reverse.flatten ++ held⟩)
      (Drained session timeout w) (Starves session timeout w) w := by
  induction fuel generalizing held taken w with
  | zero => exact absurd hfuel (Nat.not_lt_zero _)
  | succ fuel ih =>
    cases held with
    | nil =>
      refine (brings_read_nil hw htimeout (by decide)).attempt.bind (fun w₁ hw₁ w₂ hlater => ?_) fun _ _ => id
      exact ⟨by rw [List.append_nil], hw₁.1, hw₁.2.later hlater⟩
    | cons byte held =>
      refine (brings_read hw (List.cons_ne_nil _ _) (by decide)).attempt.bind (fun w₁ hw₁ => ?_)
        fun _ _ => False.elim
      have hless : ((byte :: held).drop chunk).length < fuel := by
        rw [List.length_drop, chunk]
        rw [List.length_cons] at hfuel ⊢
        omega
      refine Brings.mono (ih _ (hw₁.holds hw) (hw₁.settings_eq ▸ htimeout) hless) (fun outcome w' h => ?_)
        fun _ _ h => h.trans hw₁
      exact ⟨h.1.trans (by simp), h.2.trans hw₁⟩

/-- Reading to the end of a stream collects all that is held, and then times out. -/
theorem brings_readToEnd (hw : w.Holds session held) (htimeout : w.channel.settings.readTimeout = timeout) :
    (readToEnd : Program ε Collected).EndsIn (.ok ⟨.error timedOut, held⟩) (Drained session timeout w)
      (Starves session timeout w) w := by
  refine brings_readChunks [] hw htimeout ?_
  have hlength := hw.length_le
  have hfits := of_decide_eq_true hw.fits
  rw [Queue.entrySize] at hfits
  rw [endless]
  have hmemory : 0 < Text.maxSigned64 := by decide
  omega

end toEnd

/-- A stream that is left alone is read as it is, however it is cut. Reads one after another, each of something,
answer the bytes that are held in pieces of their sizes, and leave the others. Where nothing is held a read times
out, and takes nothing. As many bytes as are held can be read exactly; if more are wanted, all are taken before
that times out. Reading to the end collects all that are held, and then times out. Only under a timeout whose end
the clock cannot hold are bytes that are not there waited for without end. -/
theorem stream_alone {w : World} {session : Session} {held : List UInt8} {timeout : Option Duration}
    (hw : w.Holds session held) (htimeout : w.channel.settings.readTimeout = timeout) :
    (∀ sizes : List Nat, (∀ size ∈ sizes, 0 < size) →
      (∀ count < sizes.length, (sizes.take count).sum < held.length) →
      (sizes.splitLengths held).flatten = held.take sizes.sum ∧
      (series (sizes.map read) : Program ε (List (Except IoFailure (List UInt8)))).LeftAlone
        (fun outcome w' => outcome = .ok ((sizes.splitLengths held).map .ok) ∧
          w.Becomes session (held.drop sizes.sum) [] w') (fun _ _ => False) w) ∧
    (held = [] → ∀ size, 0 < size → (read size).LeftAlone
      (fun outcome w' => outcome = .failed timedOut ∧ Drained session timeout w w')
      (fun _ => Starves session timeout w) w) ∧
    (∀ size ≤ held.length, (readExact size).LeftAlone
      (fun outcome w' => outcome = .ok (held.take size) ∧ w.Becomes session (held.drop size) [] w')
      (fun _ _ => False) w) ∧
    (∀ size, held.length < size → (readExact size).LeftAlone
      (fun outcome w' => outcome = .failed timedOut ∧ Drained session timeout w w')
      (fun _ => Starves session timeout w) w) ∧
    (readToEnd : Program ε Collected).LeftAlone
      (fun outcome w' => outcome = .ok ⟨.error timedOut, held⟩ ∧ Drained session timeout w w')
      (fun _ => Starves session timeout w) w := by
  refine ⟨fun sizes hsizes hheld => ?_, ?_, fun size hsize => ?_, fun size hsize => ?_, ?_⟩
  · exact ⟨flatten_pieces sizes held, (brings_series sizes hw hsizes hheld).leftAlone⟩
  · rintro rfl size hsize
    exact (brings_read_nil hw htimeout hsize).leftAlone
  · exact (brings_readExact_le hw hsize).leftAlone
  · exact (brings_readExact_lt hw htimeout hsize).leftAlone
  · exact (brings_readToEnd hw htimeout).leftAlone

/-- A channel that holds three bytes, and is read without time to wait. -/
def polledStream : World :=
  Builder.filled { Builder.default with
    capacity := 3
    settings := { PortSettings.default with readTimeout := some .zero } } [1, 2, 3]

/-- A stream of three bytes is read in pieces, exactly, and to its end without time to wait, and tells that time ran
out where more is asked for. -/
theorem stream_alone_polled :
    (series [read 2, read 5] : Program IoFailure (List (Except IoFailure (List UInt8)))).LeftAlone
      (fun outcome w' => outcome = .ok [.ok [1, 2], .ok [3]] ∧ polledStream.Becomes 0 [] [] w') (fun _ _ => False)
      polledStream ∧
    (readExact 2).LeftAlone (fun outcome w' => outcome = .ok [1, 2] ∧ polledStream.Becomes 0 [3] [] w')
      (fun _ _ => False) polledStream ∧
    (readExact 4).LeftAlone (fun outcome w' => outcome = .failed timedOut ∧ Drained 0 (some .zero) polledStream w')
      (fun _ => Starves 0 (some .zero) polledStream) polledStream ∧
    (readToEnd : Program IoFailure Collected).LeftAlone
      (fun outcome w' => outcome = .ok ⟨.error timedOut, [1, 2, 3]⟩ ∧ Drained 0 (some .zero) polledStream w')
      (fun _ => Starves 0 (some .zero) polledStream) polledStream := by
  have hheld : polledStream.Holds 0 [1, 2, 3] := Builder.holds_filled rfl (Nat.le_refl 3)
  obtain ⟨hseries, -, hexact, hmore, hend⟩ := stream_alone (ε := IoFailure) hheld rfl
  exact ⟨(hseries [2, 5] (by decide) (by decide)).2, hexact 2 (by decide), hmore 4 (by decide), hend⟩

end Loopback.Stream
