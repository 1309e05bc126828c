import Mathlib.Data.List.Induction
import Wireframe.Registry
import Wireframe.Solid.Catalog
import Wireframe.Proofs.Basic
import Wireframe.Proofs.Dict
import Wireframe.Proofs.InPlace
import Wireframe.Proofs.Text.NormalForm

/-!
# `Wireframe.Proofs.Registry` — a map on normal forms

Whoever works with a registry registers, removes and looks up, under any spelling of a name, and goes on
whether that succeeds or not. What is found under a normal form is told by the history: the thing that was
registered first since the normal form was removed last. Since a normal form is its own normal form, the
keys that a registry lists can be used as names.

## Contents
- `normalize_idem`, `key_idem`: normal forms as names.
- `Operation`, `Answer`, `registerKey`: what can be asked of a registry.
- `Operation.offers?`, `Operation.removes`, `standing`, `thing?`: what a history says of a key.
- `Outcome`, `Tracks`, `Tracks.step`: what one operation does to a registry that its history tells.
- `perform`, `performAll`, `place`, `registerOwn_eq`: operations and histories of them.
- `Operation.inPlace`, `inPlace_eq`: operations write by write.
- `perform_failed`, `outcome`, `tracks`: each operation, and the registry after all of them.
- `Keyed`, `Tracks.keyed`: operations on the map; `map_of_normal_forms`: all of it.
- `Solid.catalog_tracks`, `Solid.perform_of_register`: the registry of the solids.
-/

namespace Wireframe

open Document InPlace

namespace Registry

/-! ## Normal forms as names -/

theorem normalize_eq_ok {s k : String} : normalize s = .ok k ↔ (Text.trim s).isEmpty = false ∧ Text.snake s = k := by
  unfold normalize
  split
  · next h => simp [h]
  · next h => simp [h]

/-- A normal form is its own normal form. -/
theorem normalize_idem {s k : String} (h : normalize s = .ok k) : normalize k = .ok k := by
  obtain ⟨hname, rfl⟩ := normalize_eq_ok.mp h
  rw [normalize_eq_ok, Text.trim_snake, Text.isEmpty_snake, Text.snake_snake]
  exact ⟨hname, rfl⟩

theorem key_eq_ok {name : Value} {k : String} : key name = .ok k ↔ ∃ s, name = .str s ∧ normalize s = .ok k := by
  unfold key
  split
  · next s =>
    constructor
    · exact fun h => ⟨s, rfl, h⟩
    · rintro ⟨s', hs, h⟩
      cases hs
      exact h
  · next hname =>
    constructor
    · nofun
    · rintro ⟨s, rfl, -⟩
      exact absurd rfl (hname s)

theorem key_idem {name : Value} {k : String} (h : key name = .ok k) : key (.str k) = .ok k := by
  obtain ⟨s, rfl, hs⟩ := key_eq_ok.mp h
  exact normalize_idem hs

/-! ## Operations -/

/-- What can be asked of a registry. A thing is registered under a name, or under its own one, which need
not exist or be a text. -/
inductive Operation (β : Type) where
  | register (name : Value) (own : Except Error String) (thing : β)
  | unregister (name : Value)
  | clear
  | get (name : Value)
  | isRegistered (name : Value)
  | list

/-- What an operation that succeeds answers. -/
inductive Answer (β : Type) where
  | done
  | thing (x : β)
  | known (b : Bool)
  | names (ks : List String)

variable {β : Type}

/-- The normal form under which a thing is registered. The own name counts if none is given. -/
def registerKey (name : Value) (own : Except Error String) : Except Error String :=
  if name.isTruthy then key name else own >>= normalize

theorem registerKey_idem {name : Value} {own : Except Error String} {k : String}
    (h : registerKey name own = .ok k) : key (.str k) = .ok k := by
  unfold registerKey at h
  split at h
  · exact key_idem h
  · obtain ⟨s, -, hs⟩ := bind_ok h
    exact normalize_idem hs

/-! ## What a history says of a key -/

/-- The thing that an operation registers under a key, if the key is free. -/
def Operation.offers? (k : String) : Operation β → Option β
  | .register name own thing =>
    match registerKey name own with
    | .ok k' => if k' = k then some thing else none
    | .error _ => none
  | _ => none

/-- Whether an operation removes what is under a key. -/
def Operation.removes (k : String) : Operation β → Bool
  | .unregister name =>
    match key name with
    | .ok k' => k' == k
    | .error _ => false
  | .clear => true
  | _ => false

/-- The operations from the first registration under a key on, since the key was removed last. -/
def standing (k : String) (ops : List (Operation β)) : List (Operation β) :=
  (ops.reverse.takeWhile fun op => !op.removes k).reverse.dropWhile fun op => (op.offers? k).isNone

/-- The thing that was registered first under a key since the key was removed last. -/
def thing? (k : String) (ops : List (Operation β)) : Option β := (standing k ops).head?.bind (·.offers? k)

theorem standing_suffix (k : String) (ops : List (Operation β)) : standing k ops <:+ ops := by
  refine (List.dropWhile_suffix _).trans ?_
  rw [← List.reverse_prefix, List.reverse_reverse]
  exact List.takeWhile_prefix _

theorem standing_concat (k : String) (ops : List (Operation β)) (op : Operation β) :
    standing k (ops ++ [op]) =
      if op.removes k then []
      else if standing k ops = [] then (if (op.offers? k).isSome then [op] else [])
      else standing k ops ++ [op] := by
  unfold standing
  rw [List.reverse_append, List.reverse_singleton, List.singleton_append, List.takeWhile_cons]
  cases op.removes k with
  | true => rfl
  | false =>
    simp only [Bool.not_false, if_true, List.reverse_cons, List.dropWhile_append, List.isEmpty_iff,
      Bool.false_eq_true, if_false]
    cases hoffers : op.offers? k <;> simp [hoffers]

/-- What stands begins with a registration. -/
theorem thing_isSome (k : String) (ops : List (Operation β)) :
    (thing? k ops).isSome = true ↔ standing k ops ≠ [] := by
  unfold thing?
  cases hstanding : standing k ops with
  | nil => exact ⟨nofun, fun h => absurd rfl h⟩
  | cons op rest =>
    have hfirst : (op.offers? k).isNone = false := by
      have hnot := List.head?_dropWhile_not (fun op : Operation β => (op.offers? k).isNone)
        (ops.reverse.takeWhile fun op => !op.removes k).reverse
      unfold standing at hstanding
      rw [hstanding] at hnot
      exact hnot
    refine ⟨fun _ => List.cons_ne_nil _ _, fun _ => ?_⟩
    rw [List.head?_cons, Option.bind_some, ← Option.not_isNone, hfirst]
    rfl

/-- One more operation removes what is there, or leaves it, or gives a free key its thing. -/
theorem thing_concat (k : String) (ops : List (Operation β)) (op : Operation β) :
    thing? k (ops ++ [op]) = if op.removes k then none else (thing? k ops).or (op.offers? k) := by
  rw [thing?, standing_concat]
  cases op.removes k with
  | true => rfl
  | false =>
    by_cases hstanding : standing k ops = []
    · rw [if_neg Bool.false_ne_true, if_pos hstanding, thing?, hstanding]
      cases hoffers : op.offers? k <;> simp [hoffers]
    · obtain ⟨x, hx⟩ := Option.isSome_iff_exists.mp ((thing_isSome k ops).mpr hstanding)
      rw [if_neg Bool.false_ne_true, if_neg hstanding, if_neg Bool.false_ne_true, hx, Option.some_or,
        List.head?_append_of_ne_nil _ hstanding]
      exact hx

/-! ## A registry and its history -/

/-- What becomes of a registry: it stays, a free key gets a thing, one key is removed, or all of them. -/
inductive Outcome (r : Registry β) (op : Operation β) : Registry β → Prop where
  | kept (hremoves : ∀ k, op.removes k = false)
      (hoffers : ∀ k, (r.table.find? k).isSome = true ∨ op.offers? k = none) : Outcome r op r
  | added (k : String) (thing : β) (hfree : r.table.find? k = none) (hnormal : key (.str k) = .ok k)
      (hremoves : ∀ k', op.removes k' = false)
      (hoffers : ∀ k', op.offers? k' = if k = k' then some thing else none) :
      Outcome r op ⟨r.table.insert k thing⟩
  | erased (k : String) (hremoves : ∀ k', op.removes k' = (k == k')) (hoffers : ∀ k', op.offers? k' = none) :
      Outcome r op ⟨r.table.erase k⟩
  | cleared (hremoves : ∀ k, op.removes k = true) : Outcome r op {}

/-- What a history says of the registry behind it. -/
structure Tracks (ops : List (Operation β)) (r : Registry β) : Prop where
  /-- Under a key there is what was registered first since the key was removed last. -/
  found : ∀ k, r.table.find? k = thing? k ops
  recent : ∀ k, standing k ops <:+ ops
  listed : ∀ k, k ∈ r.names ↔ standing k ops ≠ []
  /-- The longer ago a key was first registered, the earlier it is listed. -/
  order : r.names.Pairwise fun j k => (standing k ops).length < (standing j ops).length
  normal : ∀ k ∈ r.names, key (.str k) = .ok k

theorem mem_names {r : Registry β} {k : String} : k ∈ r.names ↔ (r.table.find? k).isSome = true :=
  Dict.mem_keys_iff

theorem names_insert {r : Registry β} {k : String} {thing : β} (h : r.table.find? k = none) :
    (⟨r.table.insert k thing⟩ : Registry β).names = r.names ++ [k] := by
  rw [names, Dict.keys, Dict.insert_entries h, List.map_append]
  rfl

/-- A key that stands and is not removed stands one operation longer. -/
theorem standing_grows {k : String} {ops : List (Operation β)} {op : Operation β}
    (hstanding : standing k ops ≠ []) (hremoves : op.removes k = false) :
    standing k (ops ++ [op]) = standing k ops ++ [op] := by
  rw [standing_concat, hremoves, if_neg Bool.false_ne_true, if_neg hstanding]

theorem order_grows {names : List String} {ops : List (Operation β)} {op : Operation β}
    (horder : names.Pairwise fun j k => (standing k ops).length < (standing j ops).length)
    (hstanding : ∀ k ∈ names, standing k ops ≠ []) (hremoves : ∀ k ∈ names, op.removes k = false) :
    names.Pairwise fun j k => (standing k (ops ++ [op])).length < (standing j (ops ++ [op])).length := by
  refine horder.imp_of_mem fun {j k} hj hk hlt => ?_
  rw [standing_grows (hstanding j hj) (hremoves j hj), standing_grows (hstanding k hk) (hremoves k hk),
    List.length_append, List.length_append]
  exact Nat.add_lt_add_right hlt _

theorem tracks_nil : Tracks ([] : List (Operation β)) {} where
  found _ := rfl
  recent k := standing_suffix k []
  listed _ := ⟨nofun, fun h => absurd rfl h⟩
  order := .nil
  normal := nofun

/-- What is found after one more operation. -/
theorem Outcome.found {ops : List (Operation β)} {op : Operation β} {r r' : Registry β}
    (h : Outcome r op r') (hfound : ∀ k, r.table.find? k = thing? k ops) (k : String) :
    r'.table.find? k = thing? k (ops ++ [op]) := by
  rw [thing_concat, ← hfound]
  cases h with
  | kept hremoves hoffers =>
    rw [hremoves, if_neg Bool.false_ne_true]
    rcases hoffers k with hsome | hnone
    · rw [Option.or_of_isSome hsome]
    · rw [hnone, Option.or_none]
  | added k₀ thing hfree _ hremoves hoffers =>
    rw [hremoves, if_neg Bool.false_ne_true, hoffers, Dict.find_insert]
    by_cases hk : k₀ = k
    · subst hk
      rw [beq_self_eq_true, if_pos rfl, if_pos rfl, hfree, Option.none_or]
    · rw [beq_eq_false_iff_ne.mpr hk, if_neg Bool.false_ne_true, if_neg hk, Option.or_none]
  | erased k₀ hremoves hoffers =>
    rw [hremoves, hoffers, Option.or_none]
    cases hk : k₀ == k with
    | true => exact Dict.find_erase_eq hk _
    | false => exact Dict.find_erase_ne hk _
  | cleared hremoves =>
    rw [hremoves]
    rfl

theorem Tracks.step {ops : List (Operation β)} {op : Operation β} {r r' : Registry β}
    (ht : Tracks ops r) (h : Outcome r op r') : Tracks (ops ++ [op]) r' where
  found := h.found ht.found
  recent k := standing_suffix k _
  listed := by
    intro k
    rw [mem_names, h.found ht.found, thing_isSome]
  order := by
    have hstanding : ∀ k ∈ r.names, standing k ops ≠ [] := fun k hk => (ht.listed k).mp hk
    cases h with
    | kept hremoves _ => exact order_grows ht.order hstanding fun k _ => hremoves k
    | added k₀ thing hfree _ hremoves hoffers =>
      rw [names_insert hfree, List.pairwise_append]
      refine ⟨order_grows ht.order hstanding fun k _ => hremoves k, List.pairwise_singleton _ _, ?_⟩
      intro j hj k hk
      obtain rfl := List.mem_singleton.mp hk
      have hnew : standing k ops = [] := by
        by_contra hne
        have hsome := (thing_isSome k ops).mpr hne
        rw [← ht.found, hfree] at hsome
        cases hsome
      rw [standing_grows (hstanding j hj) (hremoves j), standing_concat, hremoves, hoffers, hnew, List.length_append]
      simpa using List.length_pos_iff.mpr (hstanding j hj)
    | erased k₀ hremoves _ =>
      rw [names, Dict.keys_erase]
      refine order_grows (ht.order.filter _) (fun k hk => hstanding k (List.mem_filter.mp hk).1) fun k hk => ?_
      have hne : k ≠ k₀ := by simpa using (List.mem_filter.mp hk).2
      rw [hremoves, beq_eq_false_iff_ne.mpr hne.symm]
    | cleared _ => exact .nil
  normal := by
    cases h with
    | kept _ _ => exact ht.normal
    | added k₀ thing hfree hnormal _ _ =>
      rw [names_insert hfree, List.forall_mem_append]
      exact ⟨ht.normal, List.forall_mem_singleton.mpr hnormal⟩
    | erased k₀ _ _ =>
      rw [names, Dict.keys_erase]
      exact fun k hk => ht.normal k (List.mem_filter.mp hk).1
    | cleared _ => nofun

/-! ## Histories -/

variable [DecidableEq β]

/-- Registers a thing whose own name may be missing; where a name is given, it is not asked for. -/
def registerOwn (r : Registry β) (name : Value) (own : Except Error String) (thing : β) :
    Except Error (Registry β) :=
  if name.isTruthy then r.register name "" thing else own >>= fun own => r.register name own thing

/-- The registry after an operation, and its answer. -/
def perform (r : Registry β) : Operation β → Registry β × Except Error (Answer β)
  | .register name own thing => changed r (.thing thing) (r.registerOwn name own thing)
  | .unregister name => changed r .done (r.unregister name)
  | .clear => ({}, .ok .done)
  | .get name => (r, (r.get name).map .thing)
  | .isRegistered name => (r, (r.isRegistered name).map .known)
  | .list => (r, .ok (.names r.names))

/-- The registry after a history of operations, whether they fail or not. -/
def performAll (r : Registry β) (ops : List (Operation β)) : Registry β :=
  ops.foldl (fun r op => (r.perform op).1) r

theorem performAll_append (r : Registry β) (ops : List (Operation β)) (op : Operation β) :
    r.performAll (ops ++ [op]) = ((r.performAll ops).perform op).1 := List.foldl_concat _ _ _ _

theorem registerOwn_ok (r : Registry β) (name : Value) (own : String) (thing : β) :
    r.registerOwn name (.ok own) thing = r.register name own thing := by
  unfold registerOwn
  split
  · next h => rw [register, register, if_pos h, if_pos h]
  · rfl

/-- Puts a thing under a normal form: what is there stays, and nothing else may come in its place. -/
def place (r : Registry β) (k : String) (thing : β) : Except Error (Registry β) :=
  match r.table.find? k with
  | some other => if other = thing then .ok r else .error (.keyTaken k)
  | none => .ok ⟨r.table.insert k thing⟩

/-- To write what is there once more changes nothing. -/
theorem place_eq (r : Registry β) (k : String) (thing : β) :
    r.place k thing =
      match r.table.find? k with
      | some other => if other == thing then pure ⟨r.table.insert k thing⟩ else throw (.keyTaken k)
      | none => pure ⟨r.table.insert k thing⟩ := by
  unfold place
  cases hfind : r.table.find? k with
  | none => rfl
  | some other =>
    by_cases hsame : other = thing
    · subst hsame
      simp only [beq_self_eq_true, if_true, Dict.insert_of_find hfind]
      rfl
    · simp only [beq_eq_false_iff_ne.mpr hsame, if_neg hsame, Bool.false_eq_true, if_false]
      rfl

theorem register_eq (r : Registry β) (name : Value) (own : String) (thing : β) :
    r.register name own thing =
      (if name.isTruthy then key name else normalize own) >>= fun k => r.place k thing := by
  have hplace := funext fun k => r.place_eq k thing
  unfold register
  split
  · exact congrArg (key name >>= ·) hplace.symm
  · exact congrArg (normalize own >>= ·) hplace.symm

theorem registerOwn_eq (r : Registry β) (name : Value) (own : Except Error String) (thing : β) :
    r.registerOwn name own thing = registerKey name own >>= fun k => r.place k thing := by
  unfold registerOwn registerKey
  cases hname : name.isTruthy with
  | true => simp only [if_true, register_eq, hname]
  | false =>
    cases own with
    | error e => rfl
    | ok own => simp only [Bool.false_eq_true, if_false, bind, Except.bind, register_eq, hname]

/-! ## Operations write by write -/

/-- An operation write by write. -/
def Operation.inPlace : Operation β → InPlace (Registry β) (Answer β)
  | .register name own thing => do
    let k ← look fun _ => registerKey name own
    look fun r =>
      match r.table.find? k with
      | some other => if other = thing then .ok () else .error (.keyTaken k)
      | none => .ok ()
    modify fun r => ⟨r.table.insert k thing⟩
    return .thing thing
  | .unregister name => do
    let k ← look fun _ => key name
    modify fun r => ⟨r.table.erase k⟩
    return .done
  | .clear => do
    modify fun _ => {}
    return .done
  | .get name => do
    let k ← look fun _ => key name
    let x ← look fun r =>
      match r.table.find? k with
      | some x => .ok x
      | none => .error (.keyUnknown name.text)
    return .thing x
  | .isRegistered name => do
    let k ← look fun _ => key name
    let b ← look fun r => .ok (r.table.contains k)
    return .known b
  | .list => do
    let ks ← look fun r => .ok r.names
    return .names ks

/-- Write by write, operations come to the operations of the registry. -/
theorem inPlace_eq (op : Operation β) : op.inPlace = ofOutcome fun r => r.perform op := by
  funext r
  cases op with
  | list => rfl
  | clear => rfl
  | unregister name =>
    simp only [Operation.inPlace, ofOutcome, perform, unregister]
    cases key name <;> rfl
  | isRegistered name =>
    simp only [Operation.inPlace, ofOutcome, perform, isRegistered]
    cases key name <;> rfl
  | get name =>
    simp only [Operation.inPlace, ofOutcome, perform, get]
    cases key name with
    | error e => rfl
    | ok k =>
      rw [look_bind_value]
      cases hfind : r.table.find? k with
      | none =>
        rw [look_bind_error (s := r) (by rw [hfind])]
        simp only [bind, Except.bind, hfind]
        rfl
      | some x =>
        rw [look_bind_ok (s := r) (by rw [hfind])]
        simp only [bind, Except.bind, hfind]
        rfl
  | register name own thing =>
    simp only [Operation.inPlace, ofOutcome, perform, registerOwn_eq]
    cases registerKey name own with
    | error e => rfl
    | ok k =>
      rw [look_bind_value]
      cases hfind : r.table.find? k with
      | none =>
        rw [look_bind_ok (s := r) (b := ()) (by rw [hfind])]
        simp only [bind, Except.bind, place, hfind]
        rfl
      | some other =>
        by_cases hsame : other = thing
        · subst hsame
          rw [look_bind_ok (s := r) (b := ()) (by rw [hfind]; exact if_pos rfl), modify_bind,
            Dict.insert_of_find hfind]
          simp only [bind, Except.bind, place, hfind, if_true]
          rfl
        · rw [look_bind_error (s := r) (e := .keyTaken k) (by rw [hfind]; exact if_neg hsame)]
          simp only [bind, Except.bind, place, hfind, if_neg hsame]
          rfl

/-! ## What an operation does -/

section
variable {r : Registry β} {name : Value} {own : Except Error String} {thing other : β} {k : String}

theorem place_free (h : r.table.find? k = none) : r.place k thing = .ok ⟨r.table.insert k thing⟩ := by
  rw [place, h]

theorem place_same (h : r.table.find? k = some thing) : r.place k thing = .ok r := by
  rw [place, h]
  exact if_pos rfl

theorem place_taken (h : r.table.find? k = some other) (hne : other ≠ thing) :
    r.place k thing = .error (.keyTaken k) := by
  rw [place, h]
  exact if_neg hne

theorem perform_register (h : registerKey name own = .ok k) :
    r.perform (.register name own thing) = changed r (.thing thing) (r.place k thing) := by
  rw [perform, registerOwn_eq, h]
  rfl

theorem perform_unregister (h : key name = .ok k) :
    r.perform (.unregister name) = (⟨r.table.erase k⟩, .ok .done) := by
  rw [perform, unregister, h]
  rfl

theorem perform_isRegistered (h : key name = .ok k) :
    r.perform (.isRegistered name) = (r, .ok (.known (r.table.find? k).isSome)) := by
  rw [perform, isRegistered, h]
  rfl

theorem perform_get_known (h : key name = .ok k) (hfind : r.table.find? k = some thing) :
    r.perform (.get name) = (r, .ok (.thing thing)) := by
  simp only [perform, get, h, bind, Except.bind, hfind]
  rfl

theorem perform_get_unknown (h : key name = .ok k) (hfind : r.table.find? k = none) :
    r.perform (.get name) = (r, .error (.keyUnknown name.text)) := by
  simp only [perform, get, h, bind, Except.bind, hfind]
  rfl

/-- A name without a normal form is refused, whatever it is used for. -/
theorem perform_refused {e : Error} (h : key name = .error e) :
    r.perform (.unregister name) = (r, .error e) ∧ r.perform (.get name) = (r, .error e) ∧
      r.perform (.isRegistered name) = (r, .error e) := by
  simp only [perform, unregister, get, isRegistered, h]
  exact ⟨rfl, rfl, rfl⟩

@[inherit_doc perform_refused]
theorem perform_register_refused {e : Error} (h : registerKey name own = .error e) :
    r.perform (.register name own thing) = (r, .error e) := by
  rw [perform, registerOwn_eq, h]
  rfl

/-- An operation that fails changes nothing. -/
theorem perform_failed {op : Operation β} {e : Error} (h : (r.perform op).2 = .error e) :
    (r.perform op).1 = r := by
  cases op with
  | register name own thing => exact changed_failed h
  | unregister name => exact changed_failed h
  | clear => cases h
  | _ => rfl

end

theorem outcome (r : Registry β) (op : Operation β) : Outcome r op (r.perform op).1 := by
  cases op with
  | clear => exact .cleared fun _ => rfl
  | get name => exact .kept (fun _ => rfl) fun _ => .inr rfl
  | isRegistered name => exact .kept (fun _ => rfl) fun _ => .inr rfl
  | list => exact .kept (fun _ => rfl) fun _ => .inr rfl
  | unregister name =>
    cases hkey : key name with
    | error e =>
      rw [(perform_refused hkey).1]
      exact .kept (fun _ => by simp only [Operation.removes, hkey]) fun _ => .inr rfl
    | ok k =>
      rw [perform_unregister hkey]
      exact .erased k (fun _ => by simp only [Operation.removes, hkey]) fun _ => rfl
  | register name own thing =>
    cases hkey : registerKey name own with
    | error e =>
      rw [perform_register_refused hkey]
      exact .kept (fun _ => rfl) fun _ => .inr (by simp only [Operation.offers?, hkey])
    | ok k =>
      have hoffers : ∀ k', Operation.offers? k' (.register name own thing) = if k = k' then some thing else none := by
        intro k'
        simp only [Operation.offers?, hkey]
      rw [perform_register hkey]
      cases hfind : r.table.find? k with
      | none =>
        rw [place_free hfind]
        exact .added k thing hfind (registerKey_idem hkey) (fun _ => rfl) hoffers
      | some other =>
        have hkept : (changed r (Answer.thing thing) (r.place k thing)).1 = r := by
          by_cases hsame : other = thing
          · rw [place_same (hsame ▸ hfind), changed]
          · rw [place_taken hfind hsame, changed]
        rw [hkept]
        refine .kept (fun _ => rfl) fun k' => ?_
        rw [hoffers]
        by_cases hk : k = k'
        · exact .inl (by rw [← hk, hfind]; rfl)
        · exact .inr (if_neg hk)

/-- A registry is what its history says. -/
theorem tracks (ops : List (Operation β)) : Tracks ops (performAll {} ops) := by
  induction ops using List.reverseRecOn with
  | nil => exact tracks_nil
  | append_singleton ops op ih =>
    rw [performAll_append]
    exact ih.step (outcome _ op)

/-! ## The map -/

/-- What operations do to a registry as a map on normal forms. -/
structure Keyed (r : Registry β) : Prop where
  /-- Every spelling of a key finds the same thing. -/
  known : ∀ name k x, key name = .ok k → r.table.find? k = some x →
    r.perform (.get name) = (r, .ok (.thing x)) ∧
      r.perform (.isRegistered name) = (r, .ok (.known true))
  unknown : ∀ name k, key name = .ok k → r.table.find? k = none →
    (∃ e : Error, e.kind = .key ∧ r.perform (.get name) = (r, .error e)) ∧
      r.perform (.isRegistered name) = (r, .ok (.known false))
  /-- Under a free key a thing is listed last. -/
  free : ∀ name own x k, registerKey name own = .ok k → r.table.find? k = none →
    ∃ r', r.perform (.register name own x) = (r', .ok (.thing x)) ∧
      r'.table.entries = r.table.entries ++ [(k, x)]
  again : ∀ name own x k, registerKey name own = .ok k → r.table.find? k = some x →
    r.perform (.register name own x) = (r, .ok (.thing x))
  taken : ∀ name own x y k, registerKey name own = .ok k → r.table.find? k = some y → y ≠ x →
    ∃ e : Error, e.kind = .value ∧ r.perform (.register name own x) = (r, .error e)
  removed : ∀ name k, key name = .ok k →
    ∃ r', r.perform (.unregister name) = (r', .ok .done) ∧
      r'.table.entries = r.table.entries.filter fun e => !(e.1 == k)
  cleared : r.perform .clear = ({}, .ok .done)
  list : r.perform .list = (r, .ok (.names r.names))
  /-- What has no normal form is refused, whatever it is used for. -/
  refused : ∀ name e, key name = .error e → r.perform (.unregister name) = (r, .error e) ∧
    r.perform (.get name) = (r, .error e) ∧ r.perform (.isRegistered name) = (r, .error e)
  nameless : ∀ name own x e, registerKey name own = .error e →
    r.perform (.register name own x) = (r, .error e)
  /-- A key that is listed is a name of its own entry: it finds it, and removes it and nothing else. -/
  own : ∀ k ∈ r.names, ∃ x, (k, x) ∈ r.table.entries ∧
    r.perform (.get (.str k)) = (r, .ok (.thing x)) ∧
    ∃ r', r.perform (.unregister (.str k)) = (r', .ok .done) ∧
      ∀ e, e ∈ r'.table.entries ↔ e ∈ r.table.entries ∧ e ≠ (k, x)
  failed : ∀ op e, (r.perform op).2 = .error e → (r.perform op).1 = r

omit [DecidableEq β] in
/-- No key is listed twice. -/
theorem Tracks.once {ops : List (Operation β)} {r : Registry β} (ht : Tracks ops r) :
    r.table.entries.Pairwise fun a b => (a.1 == b.1) = false := by
  have horder := List.pairwise_map.mp ht.order
  refine horder.imp fun {a b} hlt => ?_
  rw [beq_eq_false_iff_ne]
  intro heq
  rw [heq] at hlt
  exact Nat.lt_irrefl _ hlt

omit [DecidableEq β] in
/-- To remove a key is to remove its entry. -/
theorem Tracks.mem_erase {ops : List (Operation β)} {r : Registry β} (ht : Tracks ops r) {k : String} {x : β}
    (hfind : r.table.find? k = some x) (e : String × β) :
    e ∈ (r.table.erase k).entries ↔ e ∈ r.table.entries ∧ e ≠ (k, x) := by
  have hmem : e ∈ (r.table.erase k).entries ↔ e ∈ r.table.entries ∧ (!(e.1 == k)) = true := List.mem_filter
  rw [hmem]
  refine and_congr_right fun he => ?_
  have hother : (!(e.1 == k)) = true ↔ e.1 ≠ k := by simp
  rw [hother]
  refine not_congr ⟨fun hk => ?_, fun hk => by rw [hk]⟩
  have hown := Dict.find_of_mem ht.once he
  rw [hk, hfind] at hown
  exact Prod.ext hk (Option.some.inj hown).symm

theorem Tracks.keyed {ops : List (Operation β)} {r : Registry β} (ht : Tracks ops r) : Keyed r where
  known name k x hkey hfind := by
    refine ⟨perform_get_known hkey hfind, ?_⟩
    rw [perform_isRegistered hkey, hfind]
    rfl
  unknown name k hkey hfind := by
    refine ⟨⟨_, rfl, perform_get_unknown hkey hfind⟩, ?_⟩
    rw [perform_isRegistered hkey, hfind]
    rfl
  free name own x k hkey hfind := by
    refine ⟨⟨r.table.insert k x⟩, ?_, Dict.insert_entries hfind x⟩
    rw [perform_register hkey, place_free hfind]
    rfl
  again name own x k hkey hfind := by
    rw [perform_register hkey, place_same hfind]
    rfl
  taken name own x y k hkey hfind hne := by
    refine ⟨.keyTaken k, rfl, ?_⟩
    rw [perform_register hkey, place_taken hfind hne]
    rfl
  removed name k hkey := ⟨_, perform_unregister hkey, rfl⟩
  cleared := rfl
  list := rfl
  refused name e := perform_refused
  nameless name own x e := perform_register_refused
  own k hk := by
    obtain ⟨x, hx⟩ := Option.isSome_iff_exists.mp (mem_names.mp hk)
    have hkey := ht.normal k hk
    obtain ⟨e, he, heq, rfl⟩ := Dict.exists_of_find hx
    obtain rfl := eq_of_beq heq
    exact ⟨e.2, he, perform_get_known hkey hx, _, perform_unregister hkey, ht.mem_erase hx⟩
  failed op e := perform_failed

/-- **A map on normal forms.** A normal form is its own normal form. Over any history, failures among it, the
registry holds under each key what was registered first since the key was removed last, in that order, and
its keys can be used as names. Write by write, operations come to the same, and one that fails leaves the
registry as it was. -/
theorem map_of_normal_forms :
    (∀ s k, normalize s = .ok k → normalize k = .ok k) ∧
    ∀ ops : List (Operation β), Tracks ops (performAll {} ops) ∧ Keyed (performAll {} ops) ∧
      ∀ op : Operation β, op.inPlace (performAll {} ops) = ofOutcome (fun r => r.perform op) (performAll {} ops) ∧
        ∀ e r', op.inPlace (performAll {} ops) = .error e r' → r' = performAll {} ops := by
  refine ⟨fun s k => normalize_idem, fun ops => ⟨tracks ops, (tracks ops).keyed, fun op => ?_⟩⟩
  rw [inPlace_eq]
  refine ⟨rfl, fun e r' h => ?_⟩
  have hcall := ofOutcome_eq_error.mp h
  have hfailed : ((performAll {} ops).perform op).1 = performAll {} ops := perform_failed (by rw [hcall])
  rw [hcall] at hfailed
  exact hfailed

end Registry

/-! ## The solids -/

open Registry (Operation Tracks)

/-- The registrations of the solids. -/
def Solid.registrations : List (Operation Solid.Maker) :=
  [Solid.Shape.box, .sphere, .torus].map fun s => .register .null (.ok s.name) (.solid s)

theorem Solid.catalog_eq : Solid.catalog = Registry.performAll {} registrations := rfl

/-- What registers a function beside the solids is an operation on their registry. -/
theorem Solid.perform_of_register {r r' : Registry Solid.Maker} {name : Value} {m : Solid.Maker}
    (h : Solid.register r name m = .ok r') :
    r.perform (.register name (.ok m.name) m) = (r', .ok (.thing m)) := by
  cases m with
  | other name shown => cases h
  | _ =>
    rw [Registry.perform, Registry.registerOwn_ok]
    exact congrArg (changed r _) h

/-- What is registered beside the solids, and removed, goes on with their history. -/
theorem Solid.catalog_tracks (ops : List (Operation Solid.Maker)) :
    Tracks (registrations ++ ops) (Solid.catalog.performAll ops) := by
  rw [catalog_eq, Registry.performAll, Registry.performAll, ← List.foldl_append]
  exact Registry.tracks _

end Wireframe
