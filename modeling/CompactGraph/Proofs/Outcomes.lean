/-
# Outcomes

Facts about computations that may fail: when a sequence of them succeeds, what it means that one comes to
what another one comes to unless it fails (`AgreesUnless`), and what it means that a stateful step comes to
what a computation without state says it should (`Reaches`).
-/
import Mathlib
import CompactGraph.Error

namespace CompactGraph

/-! ## Sequences of computations -/

/-- A sequence of two computations succeeds exactly if both do. -/
theorem bind_eq_ok_iff {ε α β : Type} {first : Except ε α} {next : α → Except ε β} {b : β} :
    first >>= next = .ok b ↔ ∃ a, first = .ok a ∧ next a = .ok b := by
  cases first with
  | error error => simp [bind, Except.bind]
  | ok a => simp [bind, Except.bind]

/-- A computation whose result is mapped succeeds exactly if it does itself. -/
theorem map_eq_ok_iff {ε α β : Type} {f : α → β} {outcome : Except ε α} {b : β} :
    f <$> outcome = .ok b ↔ ∃ a, outcome = .ok a ∧ f a = b := by
  cases outcome with
  | error error => simp
  | ok a => simp

theorem map_eq_error_iff {ε α β : Type} {f : α → β} {outcome : Except ε α} {error : ε} :
    f <$> outcome = .error error ↔ outcome = .error error := by
  cases outcome with
  | error error => simp
  | ok a => simp

/-- What comes after a check succeeds only if the check was passed. -/
theorem passed_of_eq_ok {ε α : Type} {fails : Prop} [Decidable fails] {error : ε}
    {next : Unit → Except ε α} {a : α}
    (h : (if fails then (throw error >>= next) else next ()) = .ok a) : ¬ fails ∧ next () = .ok a := by
  split at h
  · cases h
  · next hpassed => exact ⟨hpassed, h⟩

/-- A check that something comes after succeeds exactly if it is passed and that succeeds. -/
theorem check_eq_ok_iff {ε α : Type} {fails : Prop} [Decidable fails] {error : ε}
    {next : Unit → Except ε α} {a : α} :
    (if fails then (throw error >>= next) else next ()) = .ok a ↔ ¬ fails ∧ next () = .ok a := by
  constructor
  · exact passed_of_eq_ok
  · rintro ⟨hpassed, hnext⟩
    rw [if_neg hpassed, hnext]

/-- A check that nothing comes after. -/
theorem last_check_eq_ok_iff {ε : Type} {fails : Prop} [Decidable fails] {error : ε} :
    (if fails then throw error else pure () : Except ε Unit) = .ok () ↔ ¬ fails := by
  split
  · next hfails => exact iff_of_false (fun h => nomatch h) (not_not.mpr hfails)
  · next hpassed => exact iff_of_true rfl hpassed

theorem then_eq_ok_iff {ε α : Type} {first : Except ε Unit} {next : Unit → Except ε α} {a : α} :
    first >>= next = .ok a ↔ first = .ok () ∧ next () = .ok a := by
  rw [bind_eq_ok_iff]
  exact ⟨fun ⟨_, hfirst, hnext⟩ => ⟨hfirst, hnext⟩, fun ⟨hfirst, hnext⟩ => ⟨(), hfirst, hnext⟩⟩

/-- A computation for each element succeeds exactly if each of them does. -/
theorem mapM_eq_ok_iff {ε α β : Type} {f : α → Except ε β} {items : List α} {results : List β} :
    items.mapM f = .ok results ↔ items.map f = results.map .ok := by
  induction items generalizing results with
  | nil => cases results <;> simp [pure, Except.pure]
  | cons item items ih =>
    rw [List.mapM_cons, bind_eq_ok_iff]
    constructor
    · rintro ⟨first, hfirst, hsecond⟩
      obtain ⟨rest, hrest, heq⟩ := bind_eq_ok_iff.mp hsecond
      obtain rfl : first :: rest = results := by simpa [pure, Except.pure] using heq
      rw [List.map_cons, hfirst, ih.mp hrest, List.map_cons]
    · intro h
      cases results with
      | nil => simp at h
      | cons first rest =>
        rw [List.map_cons, List.map_cons, List.cons.injEq] at h
        exact ⟨first, h.1, bind_eq_ok_iff.mpr ⟨rest, ih.mpr h.2, rfl⟩⟩

/-- Outcomes that are all successful stand side by side with their values. -/
theorem map_eq_map_ok_iff {ε α β : Type} {f : α → Except ε β} {items : List α} {results : List β} :
    items.map f = results.map .ok ↔ List.Forall₂ (fun item b => f item = .ok b) items results := by
  induction items generalizing results with
  | nil => cases results <;> simp
  | cons item items ih =>
    cases results with
    | nil => simp
    | cons first rest =>
      rw [List.map_cons, List.map_cons, List.cons.injEq, List.forall₂_cons, ih]

/-- What stands side by side may be weakened, element by element. -/
theorem forall₂_imp_of_mem {α β : Type} {relates relates' : α → β → Prop} {items : List α}
    {results : List β} (h : List.Forall₂ relates items results)
    (himp : ∀ item ∈ items, ∀ result, relates item result → relates' item result) :
    List.Forall₂ relates' items results := by
  induction h with
  | nil => exact .nil
  | cons hfirst _ ih =>
    exact .cons (himp _ List.mem_cons_self _ hfirst)
      (ih fun other hother => himp other (List.mem_cons_of_mem _ hother))

/-- Each element has something that stands beside it. -/
theorem exists_of_forall₂ {α β : Type} {relates : α → β → Prop} {items : List α} {results : List β}
    (h : List.Forall₂ relates items results) {item : α} (hitem : item ∈ items) :
    ∃ result ∈ results, relates item result := by
  induction h with
  | nil => cases hitem
  | @cons first result _ results hfirst _ ih =>
    rcases List.mem_cons.mp hitem with rfl | hitem
    · exact ⟨result, List.mem_cons_self, hfirst⟩
    · obtain ⟨other, hother, hrelates⟩ := ih hitem
      exact ⟨other, List.mem_cons_of_mem _ hother, hrelates⟩

theorem getElem?_of_forall₂ {α β : Type} {relates : α → β → Prop} {items : List α} {results : List β}
    (h : List.Forall₂ relates items results) :
    ∀ {i : Nat} {item : α}, items[i]? = some item →
      ∃ result, results[i]? = some result ∧ relates item result := by
  induction h with
  | nil => exact fun hitem => nomatch hitem
  | cons hfirst _ ih =>
    intro i item hitem
    cases i with
    | zero =>
      cases hitem
      exact ⟨_, rfl, hfirst⟩
    | succ i => exact ih hitem

/-- What stands side by side by way of something else. -/
theorem forall₂_exists_iff {α β γ : Type} {first : α → β → Prop} {second : β → γ → Prop} {items : List α}
    {results : List γ} :
    List.Forall₂ (fun item result => ∃ between, first item between ∧ second between result) items results ↔
      ∃ between, List.Forall₂ first items between ∧ List.Forall₂ second between results := by
  constructor
  · intro h
    induction h with
    | nil => exact ⟨[], .nil, .nil⟩
    | cons hitem _ ih =>
      obtain ⟨between, hfirst, hsecond⟩ := hitem
      obtain ⟨rest, hrest, hresults⟩ := ih
      exact ⟨between :: rest, .cons hfirst hrest, .cons hsecond hresults⟩
  · rintro ⟨between, hfirst, hsecond⟩
    induction hfirst generalizing results with
    | nil =>
      cases hsecond
      exact .nil
    | cons hitem _ ih =>
      cases hsecond with
      | cons hresult hrest => exact .cons ⟨_, hitem, hresult⟩ (ih hrest)

/-- What stands for each element stands side by side with them. -/
theorem exists_forall₂_of_forall {α β : Type} {relates : α → β → Prop} {items : List α}
    (h : ∀ item ∈ items, ∃ b, relates item b) : ∃ results, List.Forall₂ relates items results := by
  induction items with
  | nil => exact ⟨[], .nil⟩
  | cons item items ih =>
    obtain ⟨hitem, hrest⟩ := List.forall_mem_cons.mp h
    obtain ⟨b, hb⟩ := hitem
    obtain ⟨results, hresults⟩ := ih hrest
    exact ⟨b :: results, .cons hb hresults⟩

/-- Computations that succeed for each element succeed in sequence. -/
theorem exists_mapM_of_forall {ε α β : Type} {f : α → Except ε β} {items : List α}
    (h : ∀ item ∈ items, ∃ result, f item = .ok result) :
    ∃ results, items.mapM f = .ok results := by
  induction items with
  | nil => exact ⟨[], rfl⟩
  | cons item items ih =>
    obtain ⟨first, hfirst⟩ := h item List.mem_cons_self
    obtain ⟨rest, hrest⟩ := ih fun other hother => h other (List.mem_cons_of_mem _ hother)
    refine ⟨first :: rest, ?_⟩
    rw [List.mapM_cons, bind_eq_ok_iff]
    exact ⟨first, hfirst, bind_eq_ok_iff.mpr ⟨rest, hrest, rfl⟩⟩

/-- Reading each element succeeds exactly if each of them can be read. -/
theorem mapM_eq_some_iff {α β : Type} {read : α → Option β} {items : List α} {results : List β} :
    items.mapM read = some results ↔ List.Forall₂ (fun item result => read item = some result) items results := by
  induction items generalizing results with
  | nil => simp [eq_comm]
  | cons item items ih =>
    rw [List.mapM_cons, List.forall₂_cons_left_iff]
    constructor
    · intro h
      obtain ⟨first, hfirst, h⟩ := Option.bind_eq_some_iff.mp h
      obtain ⟨rest, hrest, h⟩ := Option.bind_eq_some_iff.mp h
      exact ⟨first, rest, hfirst, ih.mp hrest, (Option.some.inj h).symm⟩
    · rintro ⟨first, rest, hfirst, hrest, rfl⟩
      rw [hfirst, ih.mpr hrest]
      rfl

/-- A computation for each element fails as the first of them does that fails. -/
theorem mapM_eq_error_iff {ε α β : Type} {f : α → Except ε β} {items : List α} {error : ε} :
    items.mapM f = .error error ↔ ∃ before item rest, items = before ++ item :: rest ∧
      (∀ earlier ∈ before, ∃ b, f earlier = .ok b) ∧ f item = .error error := by
  induction items with
  | nil =>
    constructor
    · intro h
      cases h
    · rintro ⟨before, item, rest, hsplit, _⟩
      simp at hsplit
  | cons first items ih =>
    rw [List.mapM_cons]
    cases hfirst : f first with
    | error own =>
      constructor
      · intro h
        cases h
        exact ⟨[], first, items, rfl, List.forall_mem_nil _, hfirst⟩
      · rintro ⟨before, item, rest, hsplit, hbefore, hitem⟩
        cases before with
        | nil =>
          obtain ⟨rfl, rfl⟩ := List.cons.inj hsplit
          rw [hfirst] at hitem
          cases hitem
          rfl
        | cons earlier before =>
          -- the first computation has failed, so it is not among those that succeed
          obtain ⟨rfl, _⟩ := List.cons.inj hsplit
          obtain ⟨b, hb⟩ := hbefore first List.mem_cons_self
          rw [hfirst] at hb
          cases hb
    | ok b =>
      have hrest : (Except.ok b >>= fun b => items.mapM f >>= fun bs => pure (b :: bs)) = .error error ↔
          items.mapM f = .error error := by
        cases items.mapM f <;> simp [bind, Except.bind, pure, Except.pure]
      rw [hrest, ih]
      constructor
      · rintro ⟨before, item, rest, rfl, hbefore, hitem⟩
        exact ⟨first :: before, item, rest, rfl, List.forall_mem_cons.mpr ⟨⟨b, hfirst⟩, hbefore⟩, hitem⟩
      · rintro ⟨before, item, rest, hsplit, hbefore, hitem⟩
        cases before with
        | nil =>
          obtain ⟨rfl, rfl⟩ := List.cons.inj hsplit
          rw [hfirst] at hitem
          cases hitem
        | cons earlier before =>
          obtain ⟨rfl, rfl⟩ := List.cons.inj hsplit
          exact ⟨before, item, rest, rfl, (List.forall_mem_cons.mp hbefore).2, hitem⟩

/-- Only what is done for the elements matters. -/
theorem mapM_congr {ε α β : Type} {f g : α → Except ε β} {items : List α}
    (h : ∀ item ∈ items, f item = g item) : items.mapM f = items.mapM g := by
  induction items with
  | nil => rfl
  | cons item items ih =>
    rw [List.mapM_cons, List.mapM_cons, h item List.mem_cons_self,
      ih fun other hother => h other (List.mem_cons_of_mem _ hother)]

/-- Positions that are not looked at do not matter. -/
theorem mapM_zipIdx {ε α β : Type} (f : α → Except ε β) (items : List α) (first : Nat) :
    (items.zipIdx first).mapM (fun item => f item.1) = items.mapM f := by
  conv_rhs => rw [← List.zipIdx_map_fst first items, List.mapM_map]
  rfl

/-- What is made of the item with a number. -/
theorem getElem?_map_zipIdx {α β : Type} (items : List α) (f : α × Nat → β) (number : Nat) :
    (items.zipIdx.map f)[number]? = items[number]?.map fun item => f (item, number) := by
  rw [List.getElem?_map, List.getElem?_zipIdx, Nat.zero_add, Option.map_map]
  rfl

/-- The value of a computation that succeeds. -/
def resultOf {ε α : Type} [Inhabited α] (outcome : Except ε α) : α := outcome.toOption.getD default

theorem resultOf_ok {ε α : Type} [Inhabited α] {outcome : Except ε α} {a : α}
    (h : outcome = .ok a) : resultOf outcome = a := by
  rw [h]
  rfl

/-- **A computation for each element** succeeds if each of them does, and gives their values. -/
theorem mapM_eq_ok_iff_forall {ε α β : Type} {f : α → Except ε β} {succeeds : α → Prop} {value : α → β}
    (hf : ∀ item b, f item = .ok b ↔ succeeds item ∧ b = value item) {items : List α}
    {results : List β} :
    items.mapM f = .ok results ↔ (∀ item ∈ items, succeeds item) ∧ results = items.map value := by
  induction items generalizing results with
  | nil =>
    rw [List.mapM_nil]
    constructor
    · intro h
      cases h
      exact ⟨List.forall_mem_nil _, rfl⟩
    · rintro ⟨_, rfl⟩
      rfl
  | cons item items ih =>
    rw [List.mapM_cons, bind_eq_ok_iff, List.forall_mem_cons]
    constructor
    · rintro ⟨first, hfirst, hsecond⟩
      obtain ⟨rest, hrest, heq⟩ := bind_eq_ok_iff.mp hsecond
      cases heq
      obtain ⟨hall, rfl⟩ := ih.mp hrest
      obtain ⟨hown, rfl⟩ := (hf item first).mp hfirst
      exact ⟨⟨hown, hall⟩, rfl⟩
    · rintro ⟨⟨hown, hall⟩, rfl⟩
      exact ⟨value item, (hf item _).mpr ⟨hown, rfl⟩,
        bind_eq_ok_iff.mpr ⟨items.map value, ih.mpr ⟨hall, rfl⟩, rfl⟩⟩

theorem eq_ok_iff_resultOf {ε α : Type} [Inhabited α] {outcome : Except ε α} {a : α} :
    outcome = .ok a ↔ outcome = .ok (resultOf outcome) ∧ a = resultOf outcome := by
  constructor
  · intro h
    rw [resultOf_ok h]
    exact ⟨h, rfl⟩
  · rintro ⟨h, rfl⟩
    exact h

/-- The values of computations that all succeed. -/
theorem mapM_eq_ok_iff_resultOf {ε α β : Type} [Inhabited β] {f : α → Except ε β} {items : List α}
    {results : List β} :
    items.mapM f = .ok results ↔ (∀ item ∈ items, f item = .ok (resultOf (f item))) ∧
      results = items.map fun item => resultOf (f item) :=
  mapM_eq_ok_iff_forall fun _ _ => eq_ok_iff_resultOf

/-! ## Computations that agree unless they fail -/

/-- An outcome that is the expected one if it is a value, and that fails in an excused way if it fails and
the expected one is a value. -/
structure AgreesUnless {α : Type} (excused : LoadError → Prop) (outcome expected : Except LoadError α) :
    Prop where
  ok : ∀ a, outcome = .ok a → expected = .ok a
  error : ∀ a error, expected = .ok a → outcome = .error error → excused error

namespace AgreesUnless

variable {α β : Type} {excused : LoadError → Prop} {outcome expected : Except LoadError α}

theorem refl (excused : LoadError → Prop) (outcome : Except LoadError α) :
    AgreesUnless excused outcome outcome where
  ok _ h := h
  error a error hok herror := by
    rw [hok] at herror
    cases herror

/-- A question that is answered as expected or with an error. -/
theorem of_answer (h : outcome = expected ∨ ∃ error, outcome = .error error)
    (hexcused : ∀ error, outcome = .error error → excused error) :
    AgreesUnless excused outcome expected := by
  rcases h with rfl | ⟨own, hown⟩
  · exact refl excused outcome
  · refine ⟨fun a hok => ?_, fun _ error _ => hexcused error⟩
    rw [hown] at hok
    cases hok

/-- More may be excused. -/
theorem imp (h : AgreesUnless excused outcome expected) {excused' : LoadError → Prop}
    (himp : ∀ error, excused error → excused' error) : AgreesUnless excused' outcome expected :=
  ⟨h.ok, fun a error hok herror => himp error (h.error a error hok herror)⟩

/-- Computations in sequence agree if each of them does. -/
theorem bind (h : AgreesUnless excused outcome expected) {next next' : α → Except LoadError β}
    (hnext : ∀ a, outcome = .ok a → AgreesUnless excused (next a) (next' a)) :
    AgreesUnless excused (outcome >>= next) (expected >>= next') where
  ok b hok := by
    obtain ⟨a, ha, hb⟩ := bind_eq_ok_iff.mp hok
    exact bind_eq_ok_iff.mpr ⟨a, h.ok a ha, (hnext a ha).ok b hb⟩
  error b error hok herror := by
    obtain ⟨a, ha, hb⟩ := bind_eq_ok_iff.mp hok
    cases houtcome : outcome with
    | error own =>
      rw [houtcome] at herror
      cases herror
      exact h.error a _ ha houtcome
    | ok own =>
      obtain rfl : own = a := Except.ok.inj ((h.ok own houtcome).symm.trans ha)
      rw [houtcome] at herror
      exact (hnext own houtcome).error b error hb herror

/-- Computations for each element agree if each of them does. -/
theorem mapM {f g : α → Except LoadError β} {items : List α}
    (h : ∀ item ∈ items, AgreesUnless excused (f item) (g item)) :
    AgreesUnless excused (items.mapM f) (items.mapM g) := by
  induction items with
  | nil => exact refl excused _
  | cons item items ih =>
    rw [List.mapM_cons, List.mapM_cons]
    exact (h item List.mem_cons_self).bind fun _ _ =>
      (ih fun other hother => h other (List.mem_cons_of_mem _ hother)).bind fun _ _ => refl excused _

end AgreesUnless

/-! ## Steps that come to what is expected -/

/-- The state in which a step ends, or its error. -/
def endState {σ : Type} (step : EStateM LoadError σ Unit) (state : σ) : Except LoadError σ :=
  match step state with
  | .ok () state => .ok state
  | .error error _ => .error error

/-- A step fails with the expected error, or ends in a state that suits the expected value. -/
def Reaches {σ α β : Type} (expected : Except LoadError α) (result : EStateM.Result LoadError σ β)
    (suits : α → σ → Prop) : Prop :=
  match expected, result with
  | .error error, .error error' _ => error' = error
  | .ok a, .ok _ state => suits a state
  | _, _ => False

namespace Reaches

variable {σ τ α β γ δ : Type} {suits : α → σ → Prop}

theorem ok_iff {a : α} {result : EStateM.Result LoadError σ β} :
    Reaches (.ok a) result suits ↔ ∃ b state, result = .ok b state ∧ suits a state := by
  cases result <;> simp [Reaches]

theorem error_iff {error : LoadError} {result : EStateM.Result LoadError σ β} :
    Reaches (.error error) result suits ↔ ∃ state, result = .error error state := by
  cases result <;> simp [Reaches]

/-- A step that succeeds comes to an expected value. -/
theorem of_ok {expected : Except LoadError α} {b : β} {state : σ}
    (h : Reaches expected (.ok b state) suits) : ∃ a, expected = .ok a ∧ suits a state := by
  cases expected with
  | error error => exact h.elim
  | ok a => exact ⟨a, rfl, h⟩

/-- Steps in sequence come to what is expected of them in sequence: `final` fails as the first of them
fails, and goes on from where it ends. -/
theorem bind {expected : Except LoadError α} {result : EStateM.Result LoadError σ β}
    {next : α → Except LoadError γ} {final : EStateM.Result LoadError τ δ} {suits' : γ → τ → Prop}
    (h : Reaches expected result suits)
    (hfail : ∀ error state, result = .error error state → ∃ state', final = .error error state')
    (hnext : ∀ a b state, expected = .ok a → result = .ok b state → suits a state →
      Reaches (next a) final suits') :
    Reaches (expected >>= next) final suits' := by
  cases expected with
  | error error =>
    obtain ⟨state, hresult⟩ := error_iff.mp h
    exact error_iff.mpr (hfail error state hresult)
  | ok a =>
    obtain ⟨b, state, hresult, hsuits⟩ := ok_iff.mp h
    exact hnext a b state rfl hresult hsuits

/-- The answer of a step may be replaced. -/
theorem answer {expected : Except LoadError α} {step : EStateM LoadError σ β} {state : σ}
    (h : Reaches expected (step state) suits) (c : γ) :
    Reaches expected ((step *> pure c) state) suits := by
  have hseq : (step *> pure c) state = match step state with
      | .ok _ state => .ok c state
      | .error error state => .error error state := by
    show EStateM.seqRight _ _ _ = _
    rw [EStateM.seqRight]
    cases step state <;> rfl
  rw [hseq]
  cases expected with
  | error error =>
    obtain ⟨after, hafter⟩ := error_iff.mp h
    rw [hafter]
    exact rfl
  | ok a =>
    obtain ⟨_, after, hafter, hsuits⟩ := ok_iff.mp h
    rw [hafter]
    exact hsuits

/-- What is made of the expected value does not matter to the step. -/
theorem map {expected : Except LoadError α} {result : EStateM.Result LoadError σ β} {f : α → γ}
    {suits' : γ → σ → Prop} (h : Reaches expected result fun a state => suits' (f a) state) :
    Reaches (expected >>= fun a => pure (f a)) result suits' := by
  cases expected with
  | error error => exact error_iff.mpr (error_iff.mp h)
  | ok a =>
    obtain ⟨b, state, hresult, hsuits⟩ := ok_iff.mp h
    exact ok_iff.mpr ⟨b, state, hresult, hsuits⟩

/-- What suits may be weakened. -/
theorem imp {expected : Except LoadError α} {result : EStateM.Result LoadError σ β}
    {suits' : α → σ → Prop} (h : Reaches expected result suits)
    (himp : ∀ a state, expected = .ok a → suits a state → suits' a state) :
    Reaches expected result suits' := by
  cases expected with
  | error error => exact error_iff.mpr (error_iff.mp h)
  | ok a =>
    obtain ⟨b, state, hresult, hsuits⟩ := ok_iff.mp h
    exact ok_iff.mpr ⟨b, state, hresult, himp a state rfl hsuits⟩

end Reaches

end CompactGraph
