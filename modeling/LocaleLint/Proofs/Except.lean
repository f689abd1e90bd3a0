import Mathlib

/-!
# Runs that may fail

What a run that has succeeded says about the runs that it is made of.
-/

namespace LocaleLint

variable {ε ε' α β γ : Type}

theorem bind_eq_ok {x : Except ε α} {f : α → Except ε β} {b : β} :
    (x >>= f) = .ok b ↔ ∃ a, x = .ok a ∧ f a = .ok b := by
  cases x with
  | error e => simp [bind, Except.bind]
  | ok a => simp [bind, Except.bind]

theorem map_eq_ok {x : Except ε α} {f : α → β} {b : β} :
    x.map f = .ok b ↔ ∃ a, x = .ok a ∧ f a = b := by
  cases x with
  | error e => simp [Except.map]
  | ok a => simp [Except.map]

theorem map_eq_error {x : Except ε α} {f : α → β} {e : ε} :
    x.map f = .error e ↔ x = .error e := by
  cases x with
  | error e => simp [Except.map]
  | ok a => simp [Except.map]

/-- Runs that make different things of the same result succeed alike. -/
theorem return_eq_ok_iff {x : Except ε α} {make other : α → β} {put : β → β}
    (same : ∀ a, put (other a) = make a) {b : β} :
    (do return make (← x)) = .ok b ↔
      ∃ c, (do return other (← x) : Except ε β) = .ok c ∧ put c = b := by
  cases x with
  | error e => exact ⟨nofun, nofun⟩
  | ok a =>
    constructor
    · rintro ⟨⟩
      exact ⟨_, rfl, same a⟩
    · rintro ⟨_, ⟨⟩, rfl⟩
      exact congrArg Except.ok (same a).symm

theorem mapError_eq_ok {x : Except ε α} {f : ε → ε'} {a : α} :
    x.mapError f = .ok a ↔ x = .ok a := by
  cases x with
  | error e => simp [Except.mapError]
  | ok a => simp [Except.mapError]

theorem eq_ok_of_toOption {x : Except ε α} {a : α} (some : x.toOption = some a) : x = .ok a := by
  cases x with
  | error e => cases some
  | ok a => exact congrArg Except.ok (Option.some.inj some)

theorem exists_eq_ok {x : Except ε α} (some : x.toOption.isSome) : ∃ a, x = .ok a := by
  cases x with
  | error e => cases some
  | ok a => exact ⟨a, rfl⟩

/-- A run over a list succeeds if it does for each item. -/
theorem mapM_eq_ok {f : α → Except ε β} {list : List α} {results : List β} :
    list.mapM f = .ok results ↔ List.Forall₂ (fun a b => f a = .ok b) list results := by
  induction list generalizing results with
  | nil => simp [pure, Except.pure, eq_comm]
  | cons a rest ih =>
    rw [List.mapM_cons, bind_eq_ok]
    constructor
    · rintro ⟨b, first, later⟩
      obtain ⟨others, run, made⟩ := bind_eq_ok.mp later
      cases made
      exact .cons first (ih.mp run)
    · rintro (_ | ⟨first, later⟩)
      exact ⟨_, first, bind_eq_ok.mpr ⟨_, ih.mpr later, rfl⟩⟩

/-- A run over a list in which no item fails succeeds. -/
theorem exists_mapM_eq_ok {f : α → Except ε β} {list : List α}
    (each : ∀ a ∈ list, ∃ b, f a = .ok b) : ∃ results, list.mapM f = .ok results := by
  induction list with
  | nil => exact ⟨[], rfl⟩
  | cons a rest ih =>
    obtain ⟨b, first⟩ := each a List.mem_cons_self
    obtain ⟨others, run⟩ := ih fun x inside => each x (List.mem_cons_of_mem a inside)
    exact ⟨b :: others, mapM_eq_ok.mpr (.cons first (mapM_eq_ok.mp run))⟩

/-- A run over a list fails as it does for the first item that fails. -/
theorem mapM_eq_error {f : α → Except ε β} {before after : List α} {a : α} {failure : ε}
    (earlier : ∀ x ∈ before, ∃ b, f x = .ok b) (fails : f a = .error failure) :
    (before ++ a :: after).mapM f = .error failure := by
  induction before with
  | nil =>
    rw [List.nil_append, List.mapM_cons, fails]
    rfl
  | cons x rest ih =>
    obtain ⟨b, first⟩ := earlier x List.mem_cons_self
    have others := ih fun y inside => earlier y (List.mem_cons_of_mem x inside)
    rw [List.cons_append, List.mapM_cons, first, others]
    rfl

/-- What each step of a run over a list keeps is kept by the run. -/
theorem foldlM_preserves {P : β → Prop} {f : β → α → Except ε β} {list : List α} {b result : β}
    (step : ∀ a ∈ list, ∀ {b b'}, P b → f b a = .ok b' → P b') (start : P b)
    (run : list.foldlM f b = .ok result) : P result := by
  induction list generalizing b with
  | nil =>
    cases run
    exact start
  | cons a rest ih =>
    rw [List.foldlM_cons, bind_eq_ok] at run
    obtain ⟨next, first, later⟩ := run
    exact ih (fun x inside => step x (List.mem_cons_of_mem a inside))
      (step a List.mem_cons_self start first) later

/-- If each step of a run over a list reads its item alone and puts what it reads in a place of its
own, the items may stand in any order. -/
theorem foldlM_eq_ok_of_perm {R : α → α → Prop} (symm : ∀ {a b}, R a b → R b a)
    {f : β → α → Except ε β} {read : α → Except ε γ} {put : β → γ → α → β}
    (step : ∀ {b a b'}, f b a = .ok b' ↔ ∃ c, read a = .ok c ∧ put b c a = b')
    (comm : ∀ {a a'}, R a a' → ∀ b c c', put (put b c a) c' a' = put (put b c' a') c a)
    {list other : List α} (perm : list.Perm other) (apart : list.Pairwise R) {b result : β}
    (run : list.foldlM f b = .ok result) : other.foldlM f b = .ok result := by
  induction perm generalizing b with
  | nil => exact run
  | cons a _ ih =>
    rw [List.foldlM_cons, bind_eq_ok] at run ⊢
    obtain ⟨next, first, later⟩ := run
    exact ⟨next, first, ih apart.of_cons later⟩
  | swap a a' rest =>
    have pair : R a' a := List.rel_of_pairwise_cons apart List.mem_cons_self
    simp only [List.foldlM_cons, bind_eq_ok, step] at run ⊢
    obtain ⟨_, ⟨c, first, rfl⟩, _, ⟨c', second, rfl⟩, later⟩ := run
    exact ⟨_, ⟨c', second, rfl⟩, _, ⟨c, first, rfl⟩, comm pair b c c' ▸ later⟩
  | trans first _ ih ih' =>
    exact ih' ((first.pairwise_iff symm).mp apart) (ih apart run)

/-- Each item of a list has its partner in a list that is related to it item by item. -/
theorem exists_of_forall₂ {R : α → β → Prop} {list : List α} {partners : List β}
    (related : List.Forall₂ R list partners) {a : α} (inside : a ∈ list) :
    ∃ b ∈ partners, R a b := by
  induction related with
  | nil => cases inside
  | cons first _ ih =>
    rcases List.mem_cons.mp inside with rfl | later
    · exact ⟨_, List.mem_cons_self, first⟩
    · obtain ⟨b, found, pair⟩ := ih later
      exact ⟨b, List.mem_cons_of_mem _ found, pair⟩

end LocaleLint
