import Mathlib.Data.List.Forall2
import Mathlib.Data.List.Perm.Basic
import Mathlib.Data.List.ReduceOption

set_option autoImplicit false

/-! # Computations that may fail

What is known of a computation in several steps that succeeded: each of its steps did
(`bind_eq_ok`), and so did the one for each element of a list (`mapM_eq_ok`). What a computation
needs in order to succeed, step by step, also tells how it fails (`Needs`). -/

namespace IndustrySet

variable {ε α β : Type}

theorem bind_eq_ok {x : Except ε α} {f : α → Except ε β} {b : β} :
    (x >>= f) = .ok b ↔ ∃ a, x = .ok a ∧ f a = .ok b := by
  cases x with
  | error e =>
    constructor
    · intro h; cases h
    · rintro ⟨a, h, _⟩; cases h
  | ok a =>
    constructor
    · intro h; exact ⟨a, rfl, h⟩
    · rintro ⟨_, h, hf⟩; cases h; exact hf

@[simp]
theorem pure_eq_ok {a b : α} : (pure a : Except ε α) = .ok b ↔ a = b := by
  constructor
  · intro h; cases h; rfl
  · rintro rfl; rfl

theorem mapError_eq_ok {ζ : Type} {x : Except ε α} {f : ε → ζ} {a : α} :
    x.mapError f = .ok a ↔ x = .ok a := by
  cases x with
  | error e => exact iff_of_false nofun nofun
  | ok b => rw [Except.mapError, Except.ok.injEq, Except.ok.injEq]

theorem mapM_eq_ok {f : α → Except ε β} {xs : List α} {ys : List β} :
    xs.mapM f = .ok ys ↔ List.Forall₂ (fun x y => f x = .ok y) xs ys := by
  induction xs generalizing ys with
  | nil =>
    rw [List.mapM_nil, pure_eq_ok, List.forall₂_nil_left_iff]
    exact eq_comm
  | cons x rest ih =>
    rw [List.mapM_cons, bind_eq_ok, List.forall₂_cons_left_iff]
    constructor
    · rintro ⟨y, hy, h⟩
      obtain ⟨more, hmore, h⟩ := bind_eq_ok.1 h
      exact ⟨y, more, hy, ih.1 hmore, (pure_eq_ok.1 h).symm⟩
    · rintro ⟨y, more, hy, hmore, rfl⟩
      exact ⟨y, hy, bind_eq_ok.2 ⟨more, ih.2 hmore, rfl⟩⟩

/-- Computations that cannot fail, for each element of a list. -/
theorem mapM_eq_map {f : α → Except ε β} {g : α → β} (h : ∀ x, f x = .ok (g x)) (xs : List α) :
    xs.mapM f = .ok (xs.map g) := by
  have pure_f : f = fun x => pure (g x) := funext h
  rw [pure_f, List.mapM_pure]
  rfl

/-- Every result of a list of computations that all succeeded comes from one of them. -/
theorem exists_of_mem_mapM {f : α → Except ε β} {xs : List α} {ys : List β}
    (h : xs.mapM f = .ok ys) {y : β} (hy : y ∈ ys) : ∃ x ∈ xs, f x = .ok y := by
  have results := mapM_eq_ok.1 h
  clear h
  induction results with
  | nil => simp at hy
  | cons head _ ih =>
    rcases List.mem_cons.1 hy with rfl | hy
    · exact ⟨_, List.mem_cons_self, head⟩
    · obtain ⟨x, hx, hfx⟩ := ih hy
      exact ⟨x, List.mem_cons_of_mem _ hx, hfx⟩

/-- Each of a list of computations that all succeeded did succeed. -/
theorem exists_of_mapM_mem {f : α → Except ε β} {xs : List α} {ys : List β}
    (h : xs.mapM f = .ok ys) {x : α} (hx : x ∈ xs) : ∃ y ∈ ys, f x = .ok y := by
  have results := mapM_eq_ok.1 h
  clear h
  induction results with
  | nil => simp at hx
  | cons head _ ih =>
    rcases List.mem_cons.1 hx with rfl | hx
    · exact ⟨_, List.mem_cons_self, head⟩
    · obtain ⟨y, hy, hfx⟩ := ih hx
      exact ⟨y, List.mem_cons_of_mem _ hy, hfx⟩

/-- The result for the element at a place stands at that place. -/
theorem getElem?_of_mapM {f : α → Except ε β} {xs : List α} {ys : List β} (h : xs.mapM f = .ok ys)
    {place : Nat} {x : α} (hx : xs[place]? = some x) : ∃ y, f x = .ok y ∧ ys[place]? = some y := by
  have results := mapM_eq_ok.1 h
  clear h
  induction results generalizing place with
  | nil => simp at hx
  | cons head _ ih =>
    cases place with
    | zero =>
      cases hx
      exact ⟨_, head, rfl⟩
    | succ place => exact ih hx

/-- What is known of the result for each element is known of the results in order. -/
theorem map_of_mapM {γ : Type} {f : α → Except ε β} {xs : List α} {ys : List β}
    (h : xs.mapM f = .ok ys) {g : β → γ} {k : α → γ} (each : ∀ x y, f x = .ok y → g y = k x) :
    ys.map g = xs.map k := by
  have results := mapM_eq_ok.1 h
  clear h
  induction results with
  | nil => rfl
  | cons head _ ih => rw [List.map_cons, List.map_cons, each _ _ head, ih]

/-- Computations that are the same for each element of a list are the same for the list. -/
theorem mapM_congr {f g : α → Except ε β} {xs : List α} (h : ∀ x ∈ xs, f x = g x) :
    xs.mapM f = xs.mapM g := by
  induction xs with
  | nil => rfl
  | cons x rest ih =>
    rw [List.mapM_cons, List.mapM_cons, h x List.mem_cons_self,
      ih fun y hy => h y (List.mem_cons_of_mem _ hy)]

/-- In another order, computations that succeed have the same results in that order. -/
theorem exists_mapM_perm {f : α → Except ε β} {xs ys : List α} (perm : xs.Perm ys) {zs : List β}
    (h : xs.mapM f = .ok zs) : ∃ zs', ys.mapM f = .ok zs' ∧ zs.Perm zs' := by
  obtain ⟨zs', results, order⟩ := List.perm_comp_forall₂ perm.symm (mapM_eq_ok.1 h)
  exact ⟨zs', mapM_eq_ok.2 results, order.symm⟩

/-! ## Results that may be missing -/

theorem toOption_join_eq_some {x : Except ε (Option α)} {a : α} :
    x.toOption.join = some a ↔ x = .ok (some a) := by
  cases x with
  | error e => simp [Except.toOption]
  | ok result => simp [Except.toOption]

/-- What is left of the results. -/
theorem reduceOption_of_mapM {f : α → Except ε (Option β)} {xs : List α} {ys : List (Option β)}
    (h : xs.mapM f = .ok ys) : ys.reduceOption = xs.filterMap fun x => (f x).toOption.join := by
  have results := mapM_eq_ok.1 h
  clear h
  induction results with
  | nil => rfl
  | @cons x y xs ys head _ ih =>
    rw [List.filterMap_cons, head, ← ih]
    cases y <;> simp [Except.toOption]

/-! ## Computations that succeed -/

theorem exists_of_isOk {x : Except ε α} (h : x.isOk = true) : ∃ a, x = .ok a := by
  cases x with
  | error e => cases h
  | ok a => exact ⟨a, rfl⟩

/-- What carrying out the computation tells of its result. -/
theorem exists_of_any {x : Except ε α} {p : α → Prop} [DecidablePred p]
    (h : x.toOption.any (fun a => decide (p a)) = true) : ∃ a, x = .ok a ∧ p a := by
  cases x with
  | error e => cases h
  | ok a => exact ⟨a, rfl, of_decide_eq_true h⟩

theorem exists_bind_ok {x : Except ε α} {f : α → Except ε β} (hx : ∃ a, x = .ok a)
    (hf : ∀ a, x = .ok a → ∃ b, f a = .ok b) : ∃ b, (x >>= f) = .ok b := by
  obtain ⟨a, ha⟩ := hx
  obtain ⟨b, hb⟩ := hf a ha
  exact ⟨b, bind_eq_ok.2 ⟨a, ha, hb⟩⟩

theorem exists_mapM_ok {f : α → Except ε β} {xs : List α} (h : ∀ x ∈ xs, ∃ y, f x = .ok y) :
    ∃ ys, xs.mapM f = .ok ys := by
  induction xs with
  | nil => exact ⟨[], rfl⟩
  | cons x rest ih =>
    rw [List.mapM_cons]
    refine exists_bind_ok (h x List.mem_cons_self) fun y _ => ?_
    exact exists_bind_ok (ih fun z hz => h z (List.mem_cons_of_mem _ hz)) fun _ _ => ⟨_, rfl⟩

/-! ## What a computation needs -/

/-- The computation succeeds if everything is met that it needs, and else fails with the complaint
about the first need that is not. -/
def Needs {ν : Type} (met : ν → Prop) (complaint : ν → ε) (needs : List ν) : Except ε α → Prop
  | .ok _ => ∀ need ∈ needs, met need
  | .error e => ∃ before need after, needs = before ++ need :: after ∧
      (∀ earlier ∈ before, met earlier) ∧ ¬met need ∧ e = complaint need

namespace Needs

variable {ν : Type} {met : ν → Prop} {complaint : ν → ε} {needs more : List ν} {x : Except ε α}

theorem single {need : ν} (fine : met need → ∃ a, x = .ok a)
    (fails : ¬met need → x = .error (complaint need)) : Needs met complaint [need] x := by
  by_cases h : met need
  · obtain ⟨a, rfl⟩ := fine h
    exact fun other mem => List.mem_singleton.1 mem ▸ h
  · rw [fails h]
    exact ⟨[], need, [], rfl, by simp, h, rfl⟩

theorem nothing (fine : ∃ a, x = .ok a) : Needs met complaint [] x := by
  obtain ⟨a, rfl⟩ := fine
  exact fun need mem => absurd mem List.not_mem_nil

theorem met_of_ok {a : α} (h : Needs met complaint needs x) (ok : x = .ok a) :
    ∀ need ∈ needs, met need := by
  rw [ok] at h
  exact h

theorem exists_ok (h : Needs met complaint needs x) (all : ∀ need ∈ needs, met need) :
    ∃ a, x = .ok a := by
  cases x with
  | ok a => exact ⟨a, rfl⟩
  | error e =>
    obtain ⟨before, need, after, rfl, _, unmet, _⟩ := h
    exact absurd (all need (by simp)) unmet

/-- What the first step needs comes before what the second one needs. -/
theorem bind {f : α → Except ε β} (hx : Needs met complaint needs x)
    (hf : ∀ a, x = .ok a → Needs met complaint more (f a)) :
    Needs met complaint (needs ++ more) (x >>= f) := by
  cases x with
  | error e =>
    obtain ⟨before, need, after, rfl, earlier, unmet, same⟩ := hx
    exact ⟨before, need, after ++ more, by simp, earlier, unmet, same⟩
  | ok a =>
    have rest := hf a rfl
    show Needs met complaint (needs ++ more) (f a)
    cases hfa : f a with
    | ok b =>
      rw [hfa] at rest
      intro need mem
      exact (List.mem_append.1 mem).elim (hx need) (rest need)
    | error e =>
      rw [hfa] at rest
      obtain ⟨before, need, after, rfl, earlier, unmet, same⟩ := rest
      refine ⟨needs ++ before, need, after, by simp, fun other mem => ?_, unmet, same⟩
      exact (List.mem_append.1 mem).elim (hx other) (earlier other)

/-- A step that cannot fail any more needs nothing. -/
theorem bind_ok {f : α → Except ε β} (hx : Needs met complaint needs x)
    (hf : ∀ a, x = .ok a → ∃ b, f a = .ok b) : Needs met complaint needs (x >>= f) := by
  have h := hx.bind fun a ha => nothing (hf a ha)
  rwa [List.append_nil] at h

theorem mapM {f : α → Except ε β} {needsOf : α → List ν} {xs : List α}
    (each : ∀ x ∈ xs, Needs met complaint (needsOf x) (f x)) :
    Needs met complaint (xs.flatMap needsOf) (xs.mapM f) := by
  induction xs with
  | nil => exact nothing ⟨[], rfl⟩
  | cons x rest ih =>
    rw [List.mapM_cons, List.flatMap_cons]
    refine (each x List.mem_cons_self).bind fun y _ => ?_
    exact (ih fun z hz => each z (List.mem_cons_of_mem _ hz)).bind_ok fun _ _ => ⟨_, rfl⟩

theorem mapM_single {f : α → Except ε β} {needOf : α → ν} {xs : List α}
    (each : ∀ x ∈ xs, Needs met complaint [needOf x] (f x)) :
    Needs met complaint (xs.map needOf) (xs.mapM f) := by
  rw [List.map_eq_flatMap]
  exact mapM each

/-- Needs may be told by something else. -/
theorem map {μ : Type} {told : ν → μ} {met : μ → Prop} {complaint : μ → ε}
    (h : Needs (fun need => met (told need)) (fun need => complaint (told need)) needs x) :
    Needs met complaint (needs.map told) x := by
  cases x with
  | ok a => exact List.forall_mem_map.2 h
  | error e =>
    obtain ⟨before, need, after, rfl, earlier, unmet, same⟩ := h
    refine ⟨before.map told, told need, after.map told, ?_, List.forall_mem_map.2 earlier, unmet,
      same⟩
    rw [List.map_append, List.map_cons]

end Needs

end IndustrySet
