import Loopback.Proofs.Config.Resolution

/-!
# Loaders over time

A program has loaders, and meanwhile the files and variables around it change. Whatever it asks of its loaders
and whatever changes, each loader has passed its check: a loader is made only once a file was read, the overrides
were applied and the result was checked, and to load one again either makes all of it anew or leaves all of it.
-/

namespace Loopback

/-- What a program asks of its loaders, which go by their numbers. -/
inductive Request where
  | load
  | loadFrom (path : Path)
  | reload (n : Nat)
  | save (n : Nat)
  | saveTo (n : Nat) (path : Path)
deriving DecidableEq

/-- The loaders of a program, in the order in which they were made, and its host. -/
structure Desk where
  host : Host
  loaders : List Loader

namespace Desk

/-- Keep a loader, if one was made. -/
def keep (desk : Desk) : Except ConfigFailure Loader → Except ConfigFailure Unit × Desk
  | .ok l => (.ok (), { desk with loaders := desk.loaders ++ [l] })
  | .error failure => (.error failure, desk)

/-- Put a loader in the place of another, if one was made. -/
def replace (desk : Desk) (n : Nat) : Except ConfigFailure Loader → Except ConfigFailure Unit × Desk
  | .ok l => (.ok (), { desk with loaders := desk.loaders.set n l })
  | .error failure => (.error failure, desk)

/-- Leave the host as something has made it. -/
def leave (desk : Desk) : Except ConfigFailure Unit × Host → Except ConfigFailure Unit × Desk
  | (answer, host) => (answer, { desk with host })

/-- What a request answers and leaves, if there is a loader of its number. -/
def ask (desk : Desk) : Request → Option (Except ConfigFailure Unit × Desk)
  | .load => some (desk.keep (Loader.load desk.host))
  | .loadFrom path => some (desk.keep (Loader.loadFrom desk.host path))
  | .reload n => desk.loaders[n]?.map fun l => desk.replace n (l.reload desk.host)
  | .save n => desk.loaders[n]?.map fun l => desk.leave (l.save desk.host)
  | .saveTo n path => desk.loaders[n]?.map fun l => desk.leave (l.saveTo desk.host path)

/-- What a program can come to that starts with no loaders, while files, variables and the directory it works in
change in any way between its requests. -/
inductive Reached : Desk → Prop where
  | fresh (host : Host) : Reached ⟨host, []⟩
  | surround {desk : Desk} (h : Reached desk) (host : Host) : Reached { desk with host }
  | ask {desk desk' : Desk} {request : Request} {answer : Except ConfigFailure Unit} (h : Reached desk)
      (hask : desk.ask request = some (answer, desk')) : Reached desk'

end Desk

namespace Loader

variable {h : Host} {path : Path} {l : Loader}

/-- A loader is made with the path it is made for, and has passed its check. -/
theorem complete_ok {env : Environment} {path? : Option Path} {c : Config} (hmade : complete env path? c = .ok l) :
    l.path = path? ∧ l.config.validate = .ok () := by
  unfold complete at hmade
  split at hmade
  · cases hmade
  next =>
    split at hmade
    · cases hmade
    next hvalid =>
      cases hmade
      exact ⟨rfl, hvalid⟩

/-- A loader that was loaded from a file has its path, and has passed its check. -/
theorem loadFrom_ok (hmade : loadFrom h path = .ok l) : l.path = some path ∧ l.config.validate = .ok () := by
  unfold loadFrom at hmade
  split at hmade
  · cases hmade
  · exact complete_ok hmade

/-- A directory so written that a name within it can follow: with a slash at its end, unless it is empty. -/
def opened (directory : Path) : Path :=
  if directory = [] ∨ directory.getLast? = some 47 then directory else directory ++ [47]

/-- Where a configuration file may be, by turns: first where a variable says, then in the directory the program works
in, and last in the directory for the configuration files of the user, which a variable names or which is in the user's
home. -/
inductive Customary (env : Environment) : Nat → Path → Prop where
  | named {path : Path} (hnamed : env.octets? "LOOP_SERIAL_CONFIG" = some path) : Customary env 0 path
  | here : Customary env 1 (Text.Utf8.encode "loop-serial.toml".toList)
  | user {directory : Path} (hset : env.octets? "XDG_CONFIG_HOME" = some directory) :
      Customary env 2 (opened directory ++ Text.Utf8.encode "loop-serial/loop-serial.toml".toList)
  | home {directory : Path} (hunset : env.octets? "XDG_CONFIG_HOME" = none)
      (hset : env.octets? "HOME" = some directory) :
      Customary env 2 (opened directory ++ Text.Utf8.encode ".config/loop-serial/loop-serial.toml".toList)

/-- A name that does not start at the root is joined to a directory behind its slash. -/
theorem join_of_relative {name : Path} (hname : name.isAbsolute = false) (directory : Path) :
    Path.join directory name = opened directory ++ name := by
  have hslash : Path.slash = 47 := rfl
  by_cases hempty : directory = []
  · simp [Path.join, opened, hname, hempty]
  · by_cases hends : directory.getLast? = some 47
    · simp [Path.join, opened, hname, hempty, hends, hslash]
    · simp [Path.join, opened, hname, hempty, hends, hslash]

/-- A directory whose name does not end with a slash gets one. -/
theorem opened_append {name : Path} {last : UInt8} (hname : name.getLast? = some last) (hlast : last ≠ 47)
    (directory : Path) : opened (directory ++ name) = directory ++ (name ++ [47]) := by
  have hnonempty : name ≠ [] := by
    rintro rfl
    cases hname
  have hends : (directory ++ name).getLast? = some last := by
    rw [List.getLast?_append, hname, Option.some_or]
  simp [opened, hnonempty, hends, hlast]

/-- The file in the directory of this program, within a directory. -/
theorem join_join (directory : Path) :
    Path.join (Path.join directory directoryName) fileName =
      opened directory ++ Text.Utf8.encode "loop-serial/loop-serial.toml".toList := by
  have htext : Text.Utf8.encode "loop-serial/loop-serial.toml".toList = directoryName ++ [47] ++ fileName := by
    decide +kernel
  have hlast : directoryName.getLast? = some 108 := by decide +kernel
  rw [join_of_relative (by decide +kernel), join_of_relative (by decide +kernel),
    opened_append hlast (by decide), htext, List.append_assoc]

/-- The file in the directory of this program, within the directory for such files in a home. -/
theorem join_join_join (home : Path) :
    Path.join (Path.join (Path.join home (.ofText ".config")) directoryName) fileName =
      opened home ++ Text.Utf8.encode ".config/loop-serial/loop-serial.toml".toList := by
  have htext : Text.Utf8.encode ".config/loop-serial/loop-serial.toml".toList =
      Path.ofText ".config" ++ [47] ++ Text.Utf8.encode "loop-serial/loop-serial.toml".toList := by
    decide +kernel
  have hlast : (Path.ofText ".config").getLast? = some 103 := by decide +kernel
  rw [join_join, join_of_relative (by decide +kernel), opened_append hlast (by decide), htext, List.append_assoc]

/-- The user's place is the one in the directory that a variable names, or else in the home. -/
theorem customary_user {env : Environment} :
    Customary env 2 path ↔ ∃ directory, userDirectory? env = some directory ∧
      Path.join (Path.join directory directoryName) fileName = path := by
  unfold userDirectory? userVariable homeVariable
  constructor
  · intro h
    cases h with
    | user hset => exact ⟨_, by rw [hset]; rfl, join_join _⟩
    | home hunset hset => exact ⟨_, by rw [hunset, hset]; rfl, join_join_join _⟩
  · rintro ⟨directory, hdirectory, rfl⟩
    cases hset : env.octets? "XDG_CONFIG_HOME" with
    | some user =>
      obtain rfl : user = directory := by simpa [hset] using hdirectory
      rw [join_join]
      exact .user hset
    | none =>
      obtain ⟨home, hhome, rfl⟩ : ∃ home, env.octets? "HOME" = some home ∧
          Path.join home (.ofText ".config") = directory := by
        simpa [hset] using hdirectory
      rw [join_join_join]
      exact .home hset hhome

/-- The places that are tried are the customary ones. -/
theorem mem_candidates {env : Environment} : path ∈ candidates env ↔ ∃ turn, Customary env turn path := by
  simp only [candidates, List.mem_append, Option.mem_toList, List.mem_singleton,
    Option.map_eq_some_iff, pathVariable]
  constructor
  · rintro ((hnamed | rfl) | huser)
    · exact ⟨0, .named hnamed⟩
    · exact ⟨1, .here⟩
    · exact ⟨2, customary_user.2 huser⟩
  · rintro ⟨turn, hplace⟩
    have huser (hplace : Customary env 2 path) := customary_user.1 hplace
    cases hplace with
    | named hnamed => exact .inl (.inl hnamed)
    | here => exact .inl (.inr rfl)
    | user hset => exact .inr (huser (.user hset))
    | home hunset hset => exact .inr (huser (.home hunset hset))

/-- The customary places are tried by their turns: those before one of a turn are of earlier turns. -/
theorem candidates_of_customary {env : Environment} {turn : Nat} (hplace : Customary env turn path) :
    ∃ before after, candidates env = before ++ path :: after ∧
      ∀ other ∈ before, ∃ earlier < turn, Customary env earlier other := by
  have huser (hplace : Customary env 2 path) : ∃ before after, candidates env = before ++ path :: after ∧
      ∀ other ∈ before, ∃ earlier < 2, Customary env earlier other := by
    obtain ⟨directory, hdirectory, rfl⟩ := customary_user.1 hplace
    refine ⟨(env.octets? pathVariable).toList ++ [fileName], [], by simp [candidates, hdirectory], ?_⟩
    intro other hother
    obtain hnamed | hhere := List.mem_append.1 hother
    · exact ⟨0, by decide, .named (Option.mem_toList.1 hnamed)⟩
    · rw [List.mem_singleton.1 hhere]
      exact ⟨1, by decide, .here⟩
  cases hplace with
  | named hnamed => exact ⟨[], _, by rw [candidates, pathVariable, hnamed]; rfl, by simp⟩
  | here =>
    refine ⟨(env.octets? pathVariable).toList, _, by rw [candidates, List.append_assoc]; rfl, ?_⟩
    exact fun other hnamed => ⟨0, by decide, .named (Option.mem_toList.1 hnamed)⟩
  | user hset => exact huser (.user hset)
  | home hunset hset => exact huser (.home hunset hset)

/-- The first customary place with a file is the one that is loaded from, whatever comes of it. -/
theorem load_of_first {turn : Nat} (hplace : Customary h.environment turn path)
    (hbefore : ∀ earlier < turn, ∀ other, Customary h.environment earlier other → h.isFile other = false)
    (hfile : h.isFile path = true) : load h = loadFrom h path := by
  obtain ⟨before, after, hplaces, hearlier⟩ := candidates_of_customary hplace
  have hnone : before.find? h.isFile = none := by
    refine List.find?_eq_none.2 fun other hother => ?_
    obtain ⟨earlier, hlt, hother⟩ := hearlier other hother
    simp [hbefore earlier hlt other hother]
  have hfirst : find? h = some path := by
    rw [find?, hplaces, List.find?_append, hnone, Option.none_or, List.find?_cons_of_pos hfile]
  rw [load, hfirst]

/-- Where no customary place has a file, the default is what is loaded. -/
theorem load_of_none (hnone : ∀ turn place, Customary h.environment turn place → h.isFile place = false) :
    load h = complete h.environment none .default := by
  have hfirst : find? h = none := by
    refine List.find?_eq_none.2 fun place hplace => ?_
    obtain ⟨turn, hplace⟩ := mem_candidates.1 hplace
    simp [hnone turn place hplace]
  rw [load, hfirst]

/-- A loader that was loaded has passed its check. -/
theorem load_ok (hmade : load h = .ok l) : l.config.validate = .ok () := by
  unfold load at hmade
  split at hmade
  · exact (loadFrom_ok hmade).2
  · exact (complete_ok hmade).2

/-- To load again keeps the path, and what has passed its check does so again. -/
theorem reload_ok {l' : Loader} (hmade : l.reload h = .ok l') :
    l'.path = l.path ∧ (l.config.validate = .ok () → l'.config.validate = .ok ()) := by
  unfold reload at hmade
  split at hmade
  next =>
    cases hmade
    exact ⟨rfl, id⟩
  next heq =>
    obtain ⟨hpath, hvalid⟩ := loadFrom_ok hmade
    exact ⟨hpath.trans heq.symm, fun _ => hvalid⟩

end Loader

namespace Desk

variable {desk : Desk} {request : Request}

/-- All loaders have passed their check. -/
def Valid (desk : Desk) : Prop := ∀ l ∈ desk.loaders, l.config.validate = .ok ()

/-- A loader that has passed its check may be kept. -/
theorem Valid.keep {made : Except ConfigFailure Loader} (hdesk : desk.Valid)
    (hmade : ∀ l, made = .ok l → l.config.validate = .ok ()) : (desk.keep made).2.Valid := by
  cases made with
  | error => exact hdesk
  | ok l =>
    intro other hother
    obtain hother | hother := List.mem_append.1 hother
    · exact hdesk other hother
    · rw [List.mem_singleton.1 hother]
      exact hmade l rfl

/-- A loader that has passed its check may take the place of another one. -/
theorem Valid.replace {made : Except ConfigFailure Loader} (hdesk : desk.Valid) (n : Nat)
    (hmade : ∀ l, made = .ok l → l.config.validate = .ok ()) : (desk.replace n made).2.Valid := by
  cases made with
  | error => exact hdesk
  | ok l =>
    intro other hother
    obtain hother | rfl := List.mem_or_eq_of_mem_set hother
    · exact hdesk other hother
    · exact hmade other rfl

/-- Whatever is asked, loaders that have passed their check are followed by such. -/
theorem Valid.ask {result : Except ConfigFailure Unit × Desk} (hdesk : desk.Valid)
    (hask : desk.ask request = some result) : result.2.Valid := by
  cases request with
  | load =>
    cases hask
    exact hdesk.keep fun _ => Loader.load_ok
  | loadFrom path =>
    cases hask
    exact hdesk.keep fun _ hmade => (Loader.loadFrom_ok hmade).2
  | reload n =>
    obtain ⟨l, hl, heq⟩ := Option.map_eq_some_iff.1 hask
    cases heq
    exact hdesk.replace n fun _ hmade => (Loader.reload_ok hmade).2 (hdesk l (List.mem_of_getElem? hl))
  | save n =>
    obtain ⟨l, -, heq⟩ := Option.map_eq_some_iff.1 hask
    cases heq
    exact hdesk
  | saveTo n path =>
    obtain ⟨l, -, heq⟩ := Option.map_eq_some_iff.1 hask
    cases heq
    exact hdesk

/-- By induction on the requests: whatever is reached, all loaders have passed their check. -/
theorem Reached.valid (hdesk : Reached desk) : desk.Valid := by
  induction hdesk with
  | fresh host =>
    intro l hl
    cases hl
  | surround _ _ ih => exact ih
  | ask _ hask ih => exact ih.ask hask

/-- All loaders that a program comes to have passed their check. The first customary place with a file is the one
loaded from, even if that fails, and the default is taken only where none has a file. To load a loader again from its
path either fails and leaves everything as it was, or makes the loader what loading from that path makes; without a
path it changes nothing. -/
theorem loaders_valid_reloaded_whole :
    (∀ desk : Desk, desk.Reached → ∀ l ∈ desk.loaders, l.config.validate = .ok ()) ∧
    (∀ (h : Host) (turn : Nat) (path : Path), Loader.Customary h.environment turn path →
      (∀ earlier < turn, ∀ other, Loader.Customary h.environment earlier other → h.isFile other = false) →
      h.isFile path = true → Loader.load h = Loader.loadFrom h path) ∧
    (∀ h : Host, (∀ turn place, Loader.Customary h.environment turn place → h.isFile place = false) →
      Loader.load h = Loader.complete h.environment none .default) ∧
    ∀ (desk : Desk) (n : Nat) (l : Loader), desk.loaders[n]? = some l →
      (l.path = none → desk.ask (.reload n) = some (.ok (), desk)) ∧
      ∀ path, l.path = some path →
        (∃ failure, Loader.loadFrom desk.host path = .error failure ∧
          desk.ask (.reload n) = some (.error failure, desk)) ∨
        ∃ l', Loader.loadFrom desk.host path = .ok l' ∧ l'.path = some path ∧
          desk.ask (.reload n) = some (.ok (), { desk with loaders := desk.loaders.set n l' }) := by
  refine ⟨fun _ hdesk => hdesk.valid, fun _ _ _ => Loader.load_of_first, fun _ => Loader.load_of_none, ?_⟩
  intro desk n l hl
  constructor
  · intro hpath
    have hsame : desk.loaders.set n l = desk.loaders := by
      obtain ⟨hn, rfl⟩ := List.getElem?_eq_some_iff.1 hl
      exact List.set_getElem_self hn
    simp [ask, hl, Loader.reload, hpath, replace, hsame]
  · intro path hpath
    cases hloaded : Loader.loadFrom desk.host path with
    | error failure => exact .inl ⟨failure, rfl, by simp [ask, hl, Loader.reload, hpath, hloaded, replace]⟩
    | ok l' =>
      exact .inr ⟨l', rfl, (Loader.loadFrom_ok hloaded).1, by simp [ask, hl, Loader.reload, hpath, hloaded, replace]⟩

/-- A host where one variable names a file and another the directory for the configuration files of the user, with
files of some texts at the three customary places, or none there. -/
def withFiles (named here user : Option String) : Host where
  environment :=
    [("LOOP_SERIAL_CONFIG", Path.ofText "named.toml"), ("XDG_CONFIG_HOME", Path.ofText "/user")]
  files := ⟨[([Path.ofText "user"], .directory), ([Path.ofText "user", Path.ofText "loop-serial"], .directory)] ++
      named.toList.map (fun _ => ([Path.ofText "named.toml"], .file 0)) ++
      here.toList.map (fun _ => ([Path.ofText "loop-serial.toml"], .file 1)) ++
      user.toList.map (fun _ =>
        ([Path.ofText "user", Path.ofText "loop-serial", Path.ofText "loop-serial.toml"], .file 2)),
    [(0, named), (1, here), (2, user)].map fun (number, text) => (number, Text.Utf8.encode (text.getD "").toList)⟩
  workingDirectory := []

/-- The loader of a file in the directory of the program that says nothing but a capacity. -/
def roomy : Loader :=
  ⟨some (.ofText "loop-serial.toml"), ⟨{ ChannelConfig.default with capacity := 8 }, .default⟩⟩

/-- Where a configuration file may be on such a host. -/
theorem customary_withFiles {named here user : Option String} {turn : Nat} {path : Path} :
    Loader.Customary (withFiles named here user).environment turn path ↔
      (turn = 0 ∧ path = .ofText "named.toml") ∨ (turn = 1 ∧ path = .ofText "loop-serial.toml") ∨
      (turn = 2 ∧ path = .ofText "/user/loop-serial/loop-serial.toml") := by
  have huser : Loader.opened (.ofText "/user") ++ Text.Utf8.encode "loop-serial/loop-serial.toml".toList =
      Path.ofText "/user/loop-serial/loop-serial.toml" := by
    decide +kernel
  constructor
  · intro hplace
    cases hplace with
    | named hnamed => exact .inl ⟨rfl, (Option.some.inj hnamed).symm⟩
    | here => exact .inr (.inl ⟨rfl, rfl⟩)
    | user hset =>
      obtain rfl := Option.some.inj hset
      exact .inr (.inr ⟨rfl, huser⟩)
    | home hunset => cases hunset
  · rintro (⟨rfl, rfl⟩ | ⟨rfl, rfl⟩ | ⟨rfl, rfl⟩)
    · exact .named rfl
    · exact .here
    · rw [← huser]
      exact .user rfl

/-- A file that was spoiled after it was loaded leaves its loader as it was. A file that cannot be read as a
configuration is not passed over, whether a variable names it or it is where the program works; where neither is there,
the user's is loaded, and without that the default. -/
theorem loaders_valid_reloaded_whole_spoiled :
    (∃ desk : Desk, desk.Reached ∧ desk.host = withFiles none (some "[channel]\ncapacity = 0\n") none ∧
      desk.loaders = [roomy] ∧ roomy.config.validate = .ok () ∧
      desk.ask (.reload 0) = some (.error .noCapacity, desk)) ∧
    Loader.load (withFiles (some "[") (some "") (some "")) =
      Loader.loadFrom (withFiles (some "[") (some "") (some "")) (.ofText "named.toml") ∧
    Loader.load (withFiles none (some "[") (some "")) =
      Loader.loadFrom (withFiles none (some "[") (some "")) (.ofText "loop-serial.toml") ∧
    Loader.load (withFiles none none (some "")) =
      Loader.loadFrom (withFiles none none (some "")) (.ofText "/user/loop-serial/loop-serial.toml") ∧
    Loader.load (withFiles none none none) = Loader.complete (withFiles none none none).environment none .default := by
  obtain ⟨hvalid, hfirst, hnone, hreload⟩ := loaders_valid_reloaded_whole
  refine ⟨?_, ?_, ?_, ?_, ?_⟩
  · have hloaded : Loader.load (withFiles none (some "[channel]\ncapacity = 8\n") none) = .ok roomy := by
      decide +kernel
    have hasked : ask ⟨withFiles none (some "[channel]\ncapacity = 8\n") none, []⟩ .load =
        some (.ok (), ⟨withFiles none (some "[channel]\ncapacity = 8\n") none, [roomy]⟩) := by
      simp [ask, hloaded, keep]
    have hdesk : Reached ⟨withFiles none (some "[channel]\ncapacity = 0\n") none, [roomy]⟩ :=
      ((Reached.fresh _).ask hasked).surround (withFiles none (some "[channel]\ncapacity = 0\n") none)
    have hspoiled : Loader.loadFrom (withFiles none (some "[channel]\ncapacity = 0\n") none)
        (.ofText "loop-serial.toml") = .error .noCapacity := by
      decide +kernel
    refine ⟨_, hdesk, rfl, rfl, hvalid _ hdesk roomy (List.mem_singleton.2 rfl), ?_⟩
    obtain ⟨failure, hfailed, hanswer⟩ | ⟨l, hmade, -⟩ := (hreload ⟨_, [roomy]⟩ 0 roomy rfl).2 _ rfl
    · cases hspoiled.symm.trans hfailed
      exact hanswer
    · cases hspoiled.symm.trans hmade
  · refine hfirst _ 0 _ (customary_withFiles.2 (.inl ⟨rfl, rfl⟩)) (fun _ hearlier => ?_) (by decide +kernel)
    cases hearlier
  · refine hfirst _ 1 _ (customary_withFiles.2 (.inr (.inl ⟨rfl, rfl⟩))) (fun earlier hearlier other hother => ?_)
      (by decide +kernel)
    obtain ⟨rfl, rfl⟩ | ⟨rfl, rfl⟩ | ⟨rfl, rfl⟩ := customary_withFiles.1 hother
    · decide +kernel
    · cases Nat.lt_irrefl _ hearlier
    · cases Nat.lt_irrefl _ (Nat.lt_trans hearlier Nat.one_lt_two)
  · refine hfirst _ 2 _ (customary_withFiles.2 (.inr (.inr ⟨rfl, rfl⟩))) (fun earlier hearlier other hother => ?_)
      (by decide +kernel)
    obtain ⟨rfl, rfl⟩ | ⟨rfl, rfl⟩ | ⟨rfl, rfl⟩ := customary_withFiles.1 hother
    · decide +kernel
    · decide +kernel
    · cases Nat.lt_irrefl _ hearlier
  · refine hnone _ fun turn place hplace => ?_
    obtain ⟨-, rfl⟩ | ⟨-, rfl⟩ | ⟨-, rfl⟩ := customary_withFiles.1 hplace
    · decide +kernel
    · decide +kernel
    · decide +kernel

end Desk

end Loopback
