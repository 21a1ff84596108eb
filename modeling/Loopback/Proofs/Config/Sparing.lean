import Loopback.Proofs.Config.Desk
import Loopback.Proofs.Host.Growing

/-!
# What saving spares

A configuration is written down in full before any file is touched. So one that cannot be written down, since a
number is too large for a document, changes nothing at all. Where the storage fails, directories may be new and the
file that the path leads to may hold a part of the document; all other files are as they were. The loaders stay as they
are in any case.
-/

namespace Loopback

/-- A number cannot be written down just if it is above the largest that a document can hold. -/
theorem not_isWritable {value : UInt64} : isWritable value = false ↔ 2 ^ 63 - 1 < value.toNat := by
  have hlargest : Text.maxSigned64 = 2 ^ 63 - 1 := rfl
  rw [isWritable, decide_eq_false_iff_not, Nat.not_le, hlargest]

/-- A number that may be unset cannot be written down just if it is set above the largest that a document can hold. -/
theorem not_all_isWritable {value? : Option UInt64} :
    value?.all isWritable = false ↔ ∃ value ∈ value?, 2 ^ 63 - 1 < value.toNat := by
  cases value? <;> simp [not_isWritable]

/-- A channel's part cannot be written down if one of four numbers is too large. -/
theorem ChannelConfig.not_isWritable {c : ChannelConfig} :
    c.isWritable = false ↔
      2 ^ 63 - 1 < c.capacity.toNat ∨ (∃ millis ∈ c.readTimeoutMillis, 2 ^ 63 - 1 < millis.toNat) ∨
        (∃ millis ∈ c.writeTimeoutMillis, 2 ^ 63 - 1 < millis.toNat) ∨ 2 ^ 63 - 1 < c.closeSettleMillis.toNat := by
  simp only [isWritable, Bool.and_eq_false_iff, Loopback.not_isWritable, not_all_isWritable, or_assoc]

namespace Loader

/-- What a configuration saved to a path comes to, by what is answered. -/
inductive Saved (c : Config) (path : Path) (h : Host) : Except ConfigFailure Unit → Host → Prop where
  | unencoded (hc : c.channel.isWritable = false) : Saved c path h (.error .encode) h
  | unwritten {failure : IoFailure} {h' : Host} (hc : c.channel.isWritable = true)
      (hwrote : h.Wrote path (Text.Utf8.encode c.document) (.error failure) h') :
      Saved c path h (.error (.write path failure)) h'
  | written {h' : Host} (hc : c.channel.isWritable = true)
      (hwrote : h.Wrote path (Text.Utf8.encode c.document) (.ok ()) h') : Saved c path h (.ok ()) h'

/-- To save a configuration is to write its document, if it has one. -/
theorem saved_saveTo (l : Loader) (h : Host) (path : Path) :
    Saved l.config path h (l.saveTo h path).1 (l.saveTo h path).2 := by
  cases hc : l.config.channel.isWritable with
  | false =>
    have hwrite : l.config.write? = none := by simp [Config.write?, hc]
    rw [saveTo, hwrite]
    exact .unencoded hc
  | true =>
    have hwrite : l.config.write? = some l.config.document := by simp [Config.write?, hc]
    have hwrote := Host.wrote_writeFile h path (Text.Utf8.encode l.config.document)
    rw [saveTo, hwrite]
    dsimp only
    split
    next heq =>
      rw [heq] at hwrote
      exact .written hc hwrote
    next heq =>
      rw [heq] at hwrote
      exact .unwritten hc hwrote

end Loader

namespace Desk

/-- To save a loader's configuration to a path is asked of the loader, and leaves what that leaves of the host. -/
theorem ask_saveTo {desk : Desk} {n : Nat} {l : Loader} (hl : desk.loaders[n]? = some l) (path : Path) :
    desk.ask (.saveTo n path) =
      some ((l.saveTo desk.host path).1, { desk with host := (l.saveTo desk.host path).2 }) := by
  simp [ask, hl, leave]

/-- To save a loader's configuration to its own path likewise. -/
theorem ask_save {desk : Desk} {n : Nat} {l : Loader} (hl : desk.loaders[n]? = some l) :
    desk.ask (.save n) = some ((l.save desk.host).1, { desk with host := (l.save desk.host).2 }) := by
  simp [ask, hl, leave]

/-- To save a loader's configuration leaves all loaders as they are. It is told that the configuration cannot be
written down just if one of four numbers is above the largest that a document can hold, and then the files are
untouched. It is told that the file could not be written where it could not be opened, and then all that was there is
as it was and what is new is a directory; or where the storage failed, and then that file holds a part of the document
and all others are spared, as they are where it holds the whole. Without a path, saving to the loader's own touches
nothing. -/
theorem saves_whole_or_not {desk : Desk} {n : Nat} {l : Loader} (hl : desk.loaders[n]? = some l) :
    (∀ path, ∃ answer host, desk.ask (.saveTo n path) = some (answer, { desk with host }) ∧
      (l.path = some path → desk.ask (.save n) = some (answer, { desk with host })) ∧
      (answer = .error .encode ↔
        2 ^ 63 - 1 < l.config.channel.capacity.toNat ∨
        (∃ millis ∈ l.config.channel.readTimeoutMillis, 2 ^ 63 - 1 < millis.toNat) ∨
        (∃ millis ∈ l.config.channel.writeTimeoutMillis, 2 ^ 63 - 1 < millis.toNat) ∨
        2 ^ 63 - 1 < l.config.channel.closeSettleMillis.toNat) ∧
      ((answer = .error .encode ∧ host = desk.host) ∨
        ∃ files, host = { desk.host with files } ∧
          ((∃ failure, answer = .error (.write path failure) ∧ desk.host.files.Grows files) ∨
            ∃ place number, files.resolve true desk.host.workingDirectory path = .ok (place, false) ∧
              desk.host.files.SparesAllBut files place number ∧
              ((∃ failure count, answer = .error (.write path failure) ∧
                  count < (Text.Utf8.encode l.config.document).length ∧
                  files.content? number = some ((Text.Utf8.encode l.config.document).take count)) ∨
                (answer = .ok () ∧ files.content? number = some (Text.Utf8.encode l.config.document)))))) ∧
    (l.path = none → desk.ask (.save n) = some (.error .noPath, desk)) := by
  constructor
  · intro path
    have hsaved := Loader.saved_saveTo l desk.host path
    obtain ⟨answer, host, hresult⟩ : ∃ answer host, l.saveTo desk.host path = (answer, host) := ⟨_, _, rfl⟩
    rw [hresult] at hsaved
    refine ⟨answer, host, by rw [ask_saveTo hl, hresult], ?_, ?_, ?_⟩
    · intro hpath
      have hsave : l.save desk.host = (answer, host) := by simp [Loader.save, hpath, hresult]
      rw [ask_save hl, hsave]
    · rw [← ChannelConfig.not_isWritable]
      cases hsaved with
      | unencoded hc => simp [hc]
      | unwritten hc => simp [hc]
      | written hc => simp [hc]
    · cases hsaved with
      | unencoded => exact .inl ⟨rfl, rfl⟩
      | unwritten _ hwrote =>
        cases hwrote with
        | unopened hgrows => exact .inr ⟨_, rfl, .inl ⟨_, rfl, hgrows⟩⟩
        | broken hcount hplace htaken hspared =>
          exact .inr ⟨_, rfl, .inr ⟨_, _, hplace, hspared, .inl ⟨_, _, rfl, hcount, htaken⟩⟩⟩
      | written _ hwrote =>
        cases hwrote with
        | whole hplace hheld hspared => exact .inr ⟨_, rfl, .inr ⟨_, _, hplace, hspared, .inr ⟨rfl, hheld⟩⟩⟩
  · intro hpath
    have hsave : l.save desk.host = (.error .noPath, desk.host) := by simp [Loader.save, hpath]
    rw [ask_save hl, hsave]

/-- A loader without a path, with a capacity one above the largest number that a document can hold. -/
def vast : Loader := ⟨none, ⟨{ ChannelConfig.default with capacity := 9223372036854775808 }, .default⟩⟩

/-- A host whose storage takes ten octets of a file, with a file that is known under two names and another one. -/
def cramped : Host where
  environment := []
  files := ⟨[([Path.ofText "loop-serial.toml"], .link (.ofText "kept/one")), ([Path.ofText "kept"], .directory),
      ([Path.ofText "kept", Path.ofText "one"], .file 7), ([Path.ofText "kept", Path.ofText "same"], .file 7),
      ([Path.ofText "kept", Path.ofText "other"], .file 8)],
    [(7, Path.ofText "old"), (8, Path.ofText "other")]⟩
  workingDirectory := []
  storage := ⟨[], some (10, SystemCode.noSpace)⟩

/-- The document of one loader cannot be written down, and nothing is touched. That of another does not fit, and the
file that a link leads to is broken off, while the file beside it is spared. -/
theorem saves_whole_or_not_vast :
    ask ⟨cramped, [vast, roomy]⟩ (.saveTo 0 Loader.fileName) =
      some (.error .encode, ⟨cramped, [vast, roomy]⟩) ∧
    ask ⟨cramped, [vast, roomy]⟩ (.save 0) = some (.error .noPath, ⟨cramped, [vast, roomy]⟩) ∧
    ∃ files, ask ⟨cramped, [vast, roomy]⟩ (.save 1) =
        some (.error (.write Loader.fileName (.system SystemCode.noSpace)),
          ⟨{ cramped with files }, [vast, roomy]⟩) ∧
      cramped.files.SparesAllBut files [Path.ofText "kept", Path.ofText "one"] 7 ∧
      files.content? 7 = some (Path.ofText "[channel]\n") := by
  have hvast : (⟨cramped, [vast, roomy]⟩ : Desk).loaders[0]? = some vast := rfl
  have hroomy : (⟨cramped, [vast, roomy]⟩ : Desk).loaders[1]? = some roomy := rfl
  refine ⟨?_, (saves_whole_or_not hvast).2 rfl, ?_⟩
  · obtain ⟨answer, host, hanswer, -, hencode, hkept⟩ := (saves_whole_or_not hvast).1 Loader.fileName
    have htold : answer = .error .encode := hencode.2 (.inl (by decide))
    subst htold
    obtain ⟨-, rfl⟩ | ⟨_, -, ⟨_, hwrong, -⟩ | ⟨_, _, -, -, ⟨_, _, hwrong, -⟩ | ⟨hwrong, -⟩⟩⟩ := hkept
    · exact hanswer
    · cases hwrong
    · cases hwrong
    · cases hwrong
  · obtain ⟨answer, host, -, hsave, -, hkept⟩ := (saves_whole_or_not hroomy).1 Loader.fileName
    have hasked : ask ⟨cramped, [vast, roomy]⟩ (.save 1) =
        some ((roomy.save cramped).1, ⟨(roomy.save cramped).2, [vast, roomy]⟩) :=
      ask_save hroomy
    have hanswer : (roomy.save cramped).1 = .error (.write Loader.fileName (.system SystemCode.noSpace)) := by
      decide +kernel
    have htaken : (roomy.save cramped).2.files.content? 7 = some (Path.ofText "[channel]\n") := by decide +kernel
    have hplace : (roomy.save cramped).2.files.resolve true [] Loader.fileName =
        .ok ([Path.ofText "kept", Path.ofText "one"], false) := by
      decide +kernel
    have hresult := (hsave rfl).symm.trans hasked
    generalize roomy.save cramped = saved at hasked hanswer htaken hplace hresult
    obtain ⟨answer', host'⟩ := saved
    obtain ⟨rfl, rfl⟩ : answer = answer' ∧ host = host' := by simpa using hresult
    obtain ⟨hwrong, -⟩ | ⟨files, hhost, houtcome⟩ := hkept
    · cases hanswer.symm.trans hwrong
    rw [hanswer, hhost] at hasked
    rw [hhost] at htaken hplace
    refine ⟨files, hasked, ?_, htaken⟩
    obtain ⟨_, -, hgrows⟩ | ⟨place, number, hplace', hspared, -⟩ := houtcome
    · have hchanged : some (Path.ofText "[channel]\n") ≠ cramped.files.content? 7 := by decide +kernel
      exact absurd (htaken.symm.trans (hgrows.content 7)) hchanged
    · obtain ⟨rfl, -⟩ := Prod.mk.inj (Except.ok.inj (hplace'.symm.trans hplace))
      obtain hold | ⟨hnone, -⟩ := hspared.own
      · cases hold
        exact hspared
      · cases hnone

end Desk

end Loopback
