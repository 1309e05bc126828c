import Wireframe.Proofs.Animation.FrameNames
import Wireframe.Proofs.Picture.Saving
import Wireframe.Proofs.Run.Stopping
import Wireframe.Run.Studio

/-!
# `Wireframe.Proofs.Run.FrameFiles` — the files of the frames and their reported paths

A run reports the path that it has asked a frame to be saved under, whatever the answer is. Those who work
on files save a picture under the path that its file name stands for. Both are the same path if the ending
of the frames gives an ending to the names it is put behind, and if no base name that begins with `~` is
put into the current directory: nothing else of the options, the program or the number of the frame counts.

## Contents
- `Completes`, `completes_iff`: the endings that give the names of frames an ending.
- `Outside.SavesFiles`: those who save pictures in files; `SavesFiles.answered`: where.
- `framePath_hasSuffix`, `framePath_startsHome`: the paths of frames.
- `runFrames_answered`: every file is asked for and answered.
- `frame_files` assembles the results.
-/

namespace Wireframe

open Document

variable {α ω : Type}

/-! ## Names of frames -/

namespace Animation

/-- The ending gives an ending to the names of frames, as it does to that of a frame without a base
    name. -/
def Completes (ending : String) : Prop := (Path.ofString (frameName "" 0 1 ending)).HasSuffix

instance (ending : String) : Decidable (Completes ending) := inferInstanceAs (Decidable (Path.HasSuffix _))

/-- Without a slash an ending completes names unless it is empty or ends in a dot. -/
theorem completes_iff {ending : String} (hslash : '/' ∉ ending.toList) :
    Completes ending ↔ (withoutDots ending).toList.getLast?.getD '.' ≠ '.' := by
  have hrest : '/' ∉ (withoutDots ending).toList := by
    rw [withoutDots, String.toList_ofList]
    exact fun h => hslash ((List.dropWhile_sublist _).subset h)
  exact Path.hasSuffix_zero_dotted hrest

end Animation

namespace Run

/-! ## Those who work on files -/

theorem Reply.ofFiles_world {β γ : Type} (r : Files × Except Error β) (answer : β → γ)
    (records : β → List Record) : (Reply.ofFiles r answer records).world = r.1 := by
  obtain ⟨fs, result⟩ := r
  cases result <;> rfl

theorem Reply.ofFiles_ok {β γ : Type} {r : Files × Except Error β} {answer : β → γ}
    {records : β → List Record} {c : γ} (h : (Reply.ofFiles r answer records).result = .ok c) :
    ∃ b, r = (r.1, .ok b) ∧ c = answer b := by
  obtain ⟨fs, result⟩ := r
  cases result with
  | error e => cases h
  | ok b =>
    cases h
    exact ⟨b, rfl, rfl⟩

theorem makeDirectory_home (p : Path) (fs : Files) : (makeDirectory p fs).1.home = fs.home := by
  simp only [makeDirectory]
  split
  · rfl
  · split
    · rfl
    · next hmade => exact Files.makeDirectories_home hmade

theorem assembleFiles_home (order : AssemblyOrder) (fs : Files) :
    (assembleFiles order fs).1.home = fs.home := by
  simp only [assembleFiles, Animation.assemble]
  split
  · rfl
  · split
    · simp only [Animation.writeGif]
      split
      · rfl
      · split
        · rfl
        · next hwritten => exact Files.write_home hwritten
    · rfl

/-- Those outside make directories and save pictures in files, and no one moves the home directory. Who
    shows pictures and who puts them together is left open. -/
structure Outside.SavesFiles (out : Outside Files) : Prop where
  openDirectory : ∀ p fs, out.openDirectory p fs = .ofFiles (makeDirectory p fs) id fun _ => []
  save : ∀ s p fs, out.save s p fs =
    .ofFiles (Picture.save s p fs) some fun path => [Picture.savedRecord path s]
  view_home : ∀ s fs, (out.view s fs).world.home = fs.home
  assemble_home : ∀ order fs, (out.assemble order fs).world.home = fs.home

/-- Those who work on files save pictures in files. -/
theorem studio_savesFiles (shown : Screen → Record) : (studio shown).SavesFiles where
  openDirectory _ _ := rfl
  save _ _ _ := rfl
  view_home _ _ := rfl
  assemble_home order fs := by rw [studio, Reply.ofFiles_world, assembleFiles_home]

namespace Outside.SavesFiles

variable {out : Outside Files}

theorem save_world (h : out.SavesFiles) (s : Screen) (p : Path) (fs : Files) :
    (out.save s p fs).world = (Picture.save s p fs).1 := by
  rw [h.save, Reply.ofFiles_world]

theorem hear_home (h : out.SavesFiles) (fs : Files) (call : Call α) :
    (out.hear fs call).home = fs.home := by
  unfold Outside.hear
  cases call.request with
  | save path =>
    dsimp only
    rw [h.save_world, Picture.save_home]
  | view => exact h.view_home ..
  | assemble order => exact h.assemble_home ..

theorem hearAll_home (h : out.SavesFiles) (fs : Files) (calls : List (Call α)) :
    (out.hearAll fs calls).home = fs.home := by
  induction calls generalizing fs with
  | nil => rfl
  | cons call rest ih => exact (ih _).trans (h.hear_home fs call)

/-- A picture is saved under the path that its file name stands for, and found there. -/
theorem answered (h : out.SavesFiles) {fs : Files} {call : Call α} {p q : Path}
    (hcall : call.request = .save p) (hanswer : out.answered fs call = some q) :
    Picture.resolvePath fs.home Picture.defaultEnding p = .ok q ∧
      ∃ k, Picture.Keeping.ofEnding? q.suffix = some k ∧
        (out.hear fs call).find? q = some (k.entry call.screen) := by
  simp only [Outside.answered, hcall] at hanswer
  obtain ⟨answer, hsome, rfl⟩ := Option.map_eq_some_iff.mp hanswer
  have hresult := ok_of_toOption hsome
  rw [h.save] at hresult
  obtain ⟨path, hsaved, rfl⟩ := Reply.ofFiles_ok hresult
  obtain ⟨hpath, k, hk, hfound⟩ := Picture.save_ok hsaved
  refine ⟨hpath, k, hk, ?_⟩
  have hworld : out.hear fs call = (Picture.save call.screen p fs).1 := by
    simp only [Outside.hear, hcall, h.save_world]
  rw [hworld]
  exact hfound

end Outside.SavesFiles

/-- The directory that is made does not begin with `~`. -/
theorem makeDirectory_ok {p directory : Path} {fs : Files} (hhome : fs.home.isAbsolute = true)
    (h : (makeDirectory p fs).2 = .ok directory) : ¬directory.StartsHome := by
  simp only [makeDirectory] at h
  split at h
  · cases h
  · next path hpath =>
    split at h
    · cases h
    · cases h
      by_cases hstart : p.StartsHome
      · rintro ⟨hroot, -⟩
        rw [Path.root_of_expandHome hstart hpath] at hroot
        rw [Path.isAbsolute, hroot] at hhome
        cases hhome
      · rw [Path.expandHome_self hstart] at hpath
        cases hpath
        exact hstart

namespace Setup

/-! ## Paths of frames -/

/-- Whether the path of a frame has an ending can be told from the ending of the frames. -/
theorem framePath_hasSuffix (c : Setup α ω) (directory : Path) (k : Nat) :
    (c.framePath directory k).HasSuffix ↔ Animation.Completes c.options.frameExt := by
  obtain ⟨d, ds, hds, hdigits⟩ := Animation.zeroPadded_toList c.digits.toNat k
  have hslash : '/' ∉ (Animation.zeroPadded c.digits.toNat k).toList := by
    rw [hds]
    exact fun h => absurd (hdigits _ h) (by decide)
  have hne : (Animation.zeroPadded c.digits.toNat k).toList ≠ [] := by
    rw [hds]
    exact List.cons_ne_nil d ds
  rw [framePath, Path.hasSuffix_join_dotted directory (Animation.frameName_toList ..) hne hslash,
    String.ofList_toList]
  rfl

/-- The path of a frame begins with `~` if the base name does and is put into the current directory. -/
theorem framePath_startsHome (c : Setup α ω) {directory : Path} (h : ¬directory.StartsHome) (k : Nat) :
    (c.framePath directory k).StartsHome ↔
      directory = .here ∧ (Path.ofString c.basename.text).StartsHome := by
  obtain ⟨d, ds, hds, hdigits⟩ := Animation.zeroPadded_toList c.digits.toNat k
  have hd := hdigits d List.mem_cons_self
  have hname := Animation.frameName_toList c.basename.text k c.digits.toNat c.options.frameExt
  rw [hds, List.append_assoc, List.cons_append] at hname
  rw [framePath, Path.startsHome_join h]
  refine and_congr_right fun _ => Path.startsHome_continued hname ?_ ?_ ?_ <;> rintro rfl <;> cases hd

/-! ## Files of frames -/

variable (c : Setup α ω) [Scalar α] [Angle α] [Shown α]

/-- The call for the file of a frame. -/
def fileCall (directory : Path) (m : Machine α) (k : Nat) : Call α :=
  (c.reach m (k + 1)).called (.save (c.framePath directory k))

/-- The world in which the file of a frame is asked for. -/
def fileWorld (directory : Path) (m : Machine α) (w : ω) (k : Nat) : ω :=
  c.outside.hearAll (c.worldAt directory m w k) (c.opCalls m k)

omit [Scalar α] [Angle α] [Shown α] in
/-- The file of a frame that is written has been answered. -/
theorem saveFrame_answered {directory path : Path} {k : Nat} {s : State α ω}
    (h : (c.saveFrame directory k s).result = .ok path) : ∃ written, c.outside.answered s.world
      (s.machine.called (.save (c.framePath directory k))) = some written := by
  rw [saveFrame_eq] at h
  split at h
  · cases h
  · split at h
    · cases h
    · obtain ⟨answer, hsave, -⟩ := Action.bind_ok h
      have hreply : (c.outside.save s.machine.screen (c.framePath directory k) s.world).result =
          .ok answer := hsave
      refine ⟨answer.getD (c.framePath directory k), ?_⟩
      simp only [Outside.answered, Machine.called, hreply, Except.toOption, Option.map_some]

/-- The file of a frame that succeeds has been answered. -/
theorem animateFrame_answered {directory path : Path} {k : Nat} {m : Machine α} {w : ω}
    {saved : List Path}
    (h : (c.animateFrame directory k ⟨c.reach m k, saved, c.worldAt directory m w k⟩).result =
      .ok path) :
    ∃ written, c.outside.answered (c.fileWorld directory m w k) (c.fileCall directory m k) =
      some written := by
  unfold animateFrame at h
  obtain ⟨u, hknobs, h, -⟩ := Action.bind_ok h
  obtain ⟨v, hrun, hsave, -⟩ := Action.bind_ok h
  have hanswered := c.saveFrame_answered hsave
  rw [(c.runFrame_ok hrun).2, (c.applyKnobs_ok hknobs).2] at hanswered
  exact hanswered

/-- Where all frames succeed, the file of each has been answered. -/
theorem runFrames_answered {directory : Path} {n : Nat} {s : State α ω} {paths : List Path}
    (h : (c.runFrames directory (List.range n) s).result = .ok paths) {k : Nat} (hk : k < n) :
    ∃ written, c.outside.answered (c.fileWorld directory s.machine s.world k)
      (c.fileCall directory s.machine k) = some written := by
  -- the frames before this one have succeeded, and so has this one
  rw [range_split hk, runFrames_append] at h
  obtain ⟨earlier, hearlier, h, -⟩ := Action.bind_ok h
  obtain ⟨later, hlater, -⟩ := Action.bind_ok h
  obtain ⟨path, hframe, -⟩ := Action.bind_ok hlater
  rw [List.range_eq_range'] at hearlier
  obtain ⟨-, -, hreached⟩ := c.runFrames_ok (m := s.machine) (w := s.world) rfl rfl hearlier
  rw [List.range_eq_range', hreached, Nat.zero_add] at hframe
  exact c.animateFrame_answered hframe

end Setup

/-- The files that are handed on to be put together. -/
def Request.frames? : Request → Option (List Path)
  | .assemble order => some order.frames
  | _ => none

theorem Request.isAssembly_of_frames {r : Request} {paths : List Path} (h : r.frames? = some paths) :
    r.isAssembly = true := by
  cases r with
  | assemble order => rfl
  | _ => cases h

namespace Setup

/-- The directory of an animation does not begin with `~`, and the home directory is where it was. -/
theorem openDirectory_files {c : Setup α Files} (hfiles : c.outside.SavesFiles) {s : State α Files}
    (hhome : s.world.home.isAbsolute = true) {directory : Path}
    (h : (c.openDirectory s).result = .ok directory) :
    ¬directory.StartsHome ∧ (c.openDirectory s).state.machine = s.machine ∧
      (c.openDirectory s).state.world.home = s.world.home := by
  obtain ⟨path, w, records, -, hreply, -, hstate⟩ := c.openDirectory_ok h
  rw [hfiles.openDirectory] at hreply
  have hworld : w = (makeDirectory path s.world).1 := by
    rw [← Reply.ofFiles_world (makeDirectory path s.world) id fun _ => [], hreply]
  obtain ⟨made, hmade, rfl⟩ := Reply.ofFiles_ok (congrArg Reply.result hreply)
  rw [hstate, hworld, makeDirectory_home]
  exact ⟨makeDirectory_ok hhome (congrArg Prod.snd hmade), rfl, rfl⟩

variable (c : Setup α Files) [Scalar α] [Angle α] [Shown α]

/-- **Reported and written files of frames.** The files that a run hands on to be put together, and
    reports, are those that it has asked the frames to be saved under. Each frame has been saved, and is
    found, under a path that is the reported one exactly if the ending of the frames completes names and
    no base name that begins with `~` is put into the current directory. An ending without a slash
    completes names unless it is empty or ends in a dot. -/
theorem frame_files (hfiles : c.outside.SavesFiles) {s : State α Files}
    (hhome : s.world.home.isAbsolute = true) {call : Call α} (hmem : call ∈ (c.run s).calls)
    {paths : List Path} (hpaths : call.request.frames? = some paths) :
    (∀ report, (c.run s).result = .ok report → report.framePaths = paths) ∧
      (∃ directory, (c.openDirectory s).result = .ok directory ∧
        paths = (List.range c.frameCount.toNat).map (c.framePath directory) ∧
        let w := (c.openDirectory s).state.world
        ∀ k < c.frameCount.toNat, ∃ written kept,
          c.outside.answered (c.fileWorld directory s.machine w k) (c.fileCall directory s.machine k) =
            some written ∧
          (c.outside.hear (c.fileWorld directory s.machine w k)
            (c.fileCall directory s.machine k)).find? written =
              some (Picture.Keeping.entry kept (c.reach s.machine (k + 1)).screen) ∧
          (written = c.framePath directory k ↔ Animation.Completes c.options.frameExt ∧
            ¬(directory = .here ∧ (Path.ofString c.basename.text).StartsHome))) ∧
      ('/' ∉ c.options.frameExt.toList → (Animation.Completes c.options.frameExt ↔
        (Animation.withoutDots c.options.frameExt).toList.getLast?.getD '.' ≠ '.')) := by
  obtain ⟨hanimated, directory, files, hopen, hframes⟩ :=
    c.frames_of_assembly hmem (Request.isAssembly_of_frames hpaths)
  obtain ⟨hstart, hmachine, hopenHome⟩ := openDirectory_files hfiles hhome hopen
  have hhanded : paths = (List.range c.frameCount.toNat).map (c.framePath directory) := by
    obtain ⟨last, hcalls, hothers, hrequest⟩ := c.animate_of_runFrames_ok hopen hframes
    rw [run, if_pos hanimated, hcalls] at hmem
    rcases List.mem_append.mp hmem with hearlier | hlast
    · have hassembly := Request.isAssembly_of_frames hpaths
      rw [hothers call hearlier] at hassembly
      cases hassembly
    · rw [List.mem_singleton.mp hlast, hrequest] at hpaths
      exact (Option.some.inj hpaths).symm
  refine ⟨fun report hreport => ?_, ⟨directory, hopen, hhanded, fun k hk => ?_⟩,
    fun hslash => Animation.completes_iff hslash⟩
  · rw [run, if_pos hanimated] at hreport
    obtain ⟨p, opened, _, _, hp, hreply, -, -, hreported, -⟩ := c.animate_ok hreport
    obtain ⟨q, _, _, hq, hreply', -⟩ := c.openDirectory_ok hopen
    obtain rfl : q = p := Except.ok.inj (hq.symm.trans hp)
    obtain rfl : opened = directory := by
      rw [hreply] at hreply'
      exact Except.ok.inj (congrArg Reply.result hreply')
    rw [hreported, hhanded]
  · obtain ⟨written, hwritten⟩ := c.runFrames_answered hframes hk
    rw [hmachine] at hwritten
    have hworldHome : (c.fileWorld directory s.machine (c.openDirectory s).state.world k).home =
        s.world.home := by
      rw [fileWorld, hfiles.hearAll_home, worldAt, hfiles.hearAll_home, hopenHome]
    obtain ⟨hresolved, kept, -, hfound⟩ := hfiles.answered rfl hwritten
    rw [hworldHome] at hresolved
    refine ⟨written, kept, hwritten, hfound, ?_⟩
    have hself : Picture.resolvePath s.world.home Picture.defaultEnding (c.framePath directory k) =
        .ok (c.framePath directory k) ↔ _ := Picture.resolvePath_self hhome
    rw [← c.framePath_startsHome hstart k, ← c.framePath_hasSuffix directory k, ← hself, hresolved,
      Except.ok.injEq]

end Setup

/-- An animation of two frames of one pixel on files, with an ending for its frames. -/
def Setup.reel (ending : String) : Setup Float Files where
  ops := [.push]
  options := ⟨1, 1, .white, .black, 20, .str "anim", .str "default", 3, ending, .gif, 50⟩
  plan := ⟨⟨2, .str "default"⟩, none⟩
  traced := false
  knobsShown := false
  outside := studio Picture.shownRecord

/-- The state before the animation of two frames, without a file. -/
def State.reel : State Float Files := .initial ⟨.empty, .empty, .empty⟩ (.blank 1 1 .white) {}

theorem frame_files_reel : ∃ call ∈ ((Setup.reel "png").run .reel).calls,
    call.request.frames? = some [⟨"", ["anim", "default000.png"]⟩, ⟨"", ["anim", "default001.png"]⟩] ∧
      ∃ directory w kept, (w = (Setup.reel "png").fileWorld directory State.reel.machine
          ((Setup.reel "png").openDirectory .reel).state.world 0) ∧
        ((Setup.reel "png").outside.hear w
          ((Setup.reel "png").fileCall directory State.reel.machine 0)).find?
            ⟨"", ["anim", "default000.png"]⟩ =
          some (Picture.Keeping.entry kept ((Setup.reel "png").reach State.reel.machine 1).screen) := by
  have hmem : ∃ call ∈ ((Setup.reel "png").run .reel).calls, call.request.frames? =
      some [⟨"", ["anim", "default000.png"]⟩, ⟨"", ["anim", "default001.png"]⟩] := by decide
  obtain ⟨call, hmem, hpaths⟩ := hmem
  obtain ⟨-, ⟨directory, -, hall, hframes⟩, -⟩ := (Setup.reel "png").frame_files
    (studio_savesFiles _) (by decide) hmem hpaths
  obtain ⟨written, kept, -, hfound, hiff⟩ := hframes 0 (by decide)
  have hfirst : (Setup.reel "png").framePath directory 0 = ⟨"", ["anim", "default000.png"]⟩ :=
    (List.cons.inj hall).1.symm
  have hself : written = ⟨"", ["anim", "default000.png"]⟩ := by
    rw [← hfirst]
    refine hiff.mpr ⟨by decide, fun hhome => ?_⟩
    exact absurd hhome.2 (by decide)
  rw [hself] at hfound
  exact ⟨call, hmem, hpaths, directory, _, kept, rfl, hfound⟩

/-- An ending that is only a dot is accepted, and every frame is saved under another path than the one
    that is handed on. -/
theorem frame_reported_elsewhere :
    (Options.ofFields (.ofList [(.text "frame_ext", .str ".")])).toOption.map Options.frameExt =
        some "" ∧
      (∃ call ∈ ((Setup.reel "").run .reel).calls, call.request.frames? =
        some [⟨"", ["anim", "default000."]⟩, ⟨"", ["anim", "default001."]⟩]) ∧
      (Setup.reel "").outside.answered
          ((Setup.reel "").fileWorld ⟨"", ["anim"]⟩ State.reel.machine
            ((Setup.reel "").openDirectory .reel).state.world 0)
          ((Setup.reel "").fileCall ⟨"", ["anim"]⟩ State.reel.machine 0) =
        some ⟨"", ["anim", "default000..png"]⟩ := by
  refine ⟨?_, ?_, ?_⟩
  · decide
  · decide
  · decide

end Run

end Wireframe
