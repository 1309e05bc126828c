import Wireframe.Animation.Plan
import Mathlib.Data.List.Perm.Basic

/-!
# `Wireframe.Proofs.Interleaving` — programs put together from setups and a scene

Some instructions set up an animation, and the others make up the scene. Programs with the same setups in
the same order, and the same scene, may put the two together in different ways. Such programs have the
same instructions and the same plan: planning looks at the setups alone.

## Contents
- `Opcode.isSetup`, `setups`, `scene`, `Interleaved`: two ways to put a program together.
- `Interleaved.perm`: the instructions are the same.
- `Interleaved.plan_eq`: so is the plan, with all there is to report.
- `SameScene`: programs with the same scene, from the front.
-/

namespace Wireframe

open Document

variable {α : Type} {ops ops' : List (Opcode α)}

/-- Instructions that set up an animation, and do nothing when the program runs. -/
def Opcode.isSetup : Opcode α → Bool
  | .frames _ | .basename _ | .vary .. => true
  | _ => false

/-- The instructions of a program that set up an animation. -/
def setups (ops : List (Opcode α)) : List (Opcode α) := ops.filter Opcode.isSetup

/-- The instructions of a program that do something when it runs. -/
def scene (ops : List (Opcode α)) : List (Opcode α) := ops.filter fun op => !op.isSetup

/-- Programs that put the same setups and the same scene together. -/
structure Interleaved (ops ops' : List (Opcode α)) : Prop where
  setups : setups ops = setups ops'
  scene : scene ops = scene ops'

/-- Programs with the same setups and the same scene have the same instructions. -/
theorem Interleaved.perm (h : Interleaved ops ops') : ops.Perm ops' := by
  have hops : (Wireframe.setups ops ++ Wireframe.scene ops).Perm ops := List.filter_append_perm _ ops
  have hops' : (Wireframe.setups ops' ++ Wireframe.scene ops').Perm ops' :=
    List.filter_append_perm _ ops'
  rw [h.setups, h.scene] at hops
  exact hops.symm.trans hops'

/-! ## Planning -/

theorem Found.see_scene {op : Opcode α} (h : op.isSetup = false) (f : Found) : f.see op = .ok f := by
  cases op with
  | frames count => cases h
  | basename name => cases h
  | _ => rfl

/-- Only setups are looked at. -/
theorem Found.seeAll_setups (ops : List (Opcode α)) (f : Found) :
    f.seeAll ops = f.seeAll (setups ops) := by
  induction ops generalizing f with
  | nil => rfl
  | cons op rest ih =>
    cases h : op.isSetup with
    | true =>
      rw [setups, List.filter_cons_of_pos h, seeAll, seeAll]
      cases f.see op with
      | error e => rfl
      | ok f' => exact ih f'
    | false =>
      rw [setups, List.filter_cons_of_neg (by rw [h]; exact Bool.false_ne_true), seeAll, see_scene h]
      exact ih f

theorem varies_setups (ops : List (Opcode α)) : varies ops = varies (setups ops) := by
  rw [varies, varies, setups, List.filterMap_filter]
  refine List.filterMap_congr fun op _ => ?_
  cases op <;> rfl

/-- **The plan is a matter of the setups.** It is the same, or fails in the same way, with the same
    notices. -/
theorem Interleaved.plan_eq [Scalar α] (h : Interleaved ops ops') (default : Name) :
    plan default ops = plan default ops' := by
  have hseen : Found.seeAll {} ops = Found.seeAll {} ops' := by
    rw [Found.seeAll_setups ops, h.setups, ← Found.seeAll_setups]
  have hvaries : varies ops = varies ops' := by
    rw [varies_setups ops, h.setups, ← varies_setups]
  have hsettings : discover default ops = discover default ops' := by
    rw [discover, discover, hseen, hvaries]
  have htimeline : ∀ settings, timelineFor settings ops = timelineFor settings ops' := by
    intro settings
    rw [timelineFor, timelineFor, hvaries]
  simp only [plan, hsettings, htimeline]

/-! ## Programs from the front -/

/-- Programs with the same scene: before each instruction that they have in common either may have
setups of its own. -/
inductive SameScene : List (Opcode α) → List (Opcode α) → Prop
  | nil : SameScene [] []
  | left {op : Opcode α} {ops ops' : List (Opcode α)} :
      op.isSetup = true → SameScene ops ops' → SameScene (op :: ops) ops'
  | right {op : Opcode α} {ops ops' : List (Opcode α)} :
      op.isSetup = true → SameScene ops ops' → SameScene ops (op :: ops')
  | both {op : Opcode α} {ops ops' : List (Opcode α)} :
      op.isSetup = false → SameScene ops ops' → SameScene (op :: ops) (op :: ops')

theorem SameScene.of_scene (h : scene ops = scene ops') : SameScene ops ops' := by
  induction ops generalizing ops' with
  | nil =>
    -- what is left on the other side are setups
    induction ops' with
    | nil => exact .nil
    | cons op' rest' ih =>
      cases hop : op'.isSetup with
      | true =>
        rw [scene, scene, List.filter_cons_of_neg (by simp [hop])] at h
        exact .right hop (ih h)
      | false =>
        rw [scene, scene, List.filter_cons_of_pos (by simp [hop])] at h
        cases h
  | cons op rest ih =>
    cases hop : op.isSetup with
    | true =>
      rw [scene, List.filter_cons_of_neg (by simp [hop])] at h
      exact .left hop (ih h)
    | false =>
      rw [scene, List.filter_cons_of_pos (by simp [hop])] at h
      -- the other side comes to the same instruction behind setups
      induction ops' with
      | nil => cases h
      | cons op' rest' ih' =>
        cases hop' : op'.isSetup with
        | true =>
          rw [scene, List.filter_cons_of_neg (by simp [hop'])] at h
          exact .right hop' (ih' h)
        | false =>
          rw [scene, List.filter_cons_of_pos (by simp [hop'])] at h
          obtain ⟨rfl, hrest⟩ := List.cons.inj h
          exact .both hop (ih hrest)

end Wireframe
