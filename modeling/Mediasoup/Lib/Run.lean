import Mathlib.Algebra.Order.Ring.Nat
import Mathlib.Data.UInt

/-!
# Runs of a step function that can fail

A component is a function `step : σ → ε → Except φ σ`: a call `e` made in state `s` either returns the next state or
stops with a fault. A run is the list of its calls.

- `Ends P E x`: the computation `x` returns a value in `P` or faults in `E`;
- `Along`, `Safe`, `EachStep`, `Outcomes`: what holds of the calls and states of a run;
- `safe_of_along`, `eachStep_of_along`, `outcomes_of_along`, `along_of_along`: an invariant kept by the calls that meet a
  condition gives these for every run along the condition;
- `safe_iff_along`, `eachStep_iff_along`: if moreover a call outside of it breaks the property, the runs are
  exactly those.
-/

namespace Mediasoup.Lib

theorem of_ite_eq_ok {ε α : Type*} {c : Prop} [Decidable c] {e : ε} {a b : α}
    (h : (if c then Except.error e else Except.ok a) = Except.ok b) : b = a := by
  split at h
  · nomatch h
  · exact (Except.ok.inj h).symm

theorem exists_of_bind_eq_ok {φ α β : Type} {x : Except φ α} {f : α → Except φ β} {b : β} (h : x >>= f = .ok b) :
    ∃ a, x = .ok a ∧ f a = .ok b := by
  cases x with
  | error e => cases h
  | ok a => exact ⟨a, rfl, h⟩

theorem eq_ok_of_mapError {φ ψ α : Type*} {x : Except φ α} {f : φ → ψ} {a : α} (h : x.mapError f = .ok a) : x = .ok a := by
  cases x with
  | error e => cases h
  | ok b =>
    cases h
    rfl

def Ends {φ α : Type*} (P : α → Prop) (E : φ → Prop) : Except φ α → Prop
  | .ok a => P a
  | .error f => E f

variable {φ α : Type*}

theorem Ends.imp {P Q : α → Prop} {E : φ → Prop} {x : Except φ α} (h : Ends P E x)
    (hPQ : ∀ a, P a → Q a) : Ends Q E x := by
  cases x with
  | error e => exact h
  | ok a => exact hPQ a h

theorem Ends.faults {P : α → Prop} {E F : φ → Prop} {x : Except φ α} (h : Ends P E x)
    (hEF : ∀ f, E f → F f) : Ends P F x := by
  cases x with
  | error e => exact hEF e h
  | ok a => exact h

theorem Ends.map {φ α β : Type*} {P : α → Prop} {Q : β → Prop} {E : φ → Prop} {x : Except φ α} {f : α → β}
    (h : Ends P E x) (hf : ∀ a, P a → Q (f a)) : Ends Q E (x.map f) := by
  cases x with
  | error e => exact h
  | ok a => exact hf a h

theorem Ends.bind {φ α β : Type} {P : α → Prop} {Q : β → Prop} {E : φ → Prop} {x : Except φ α}
    {f : α → Except φ β} (h : Ends P E x) (hf : ∀ a, P a → Ends Q E (f a)) : Ends Q E (x >>= f) := by
  cases x with
  | error e => exact h
  | ok a => exact hf a h

theorem Ends.of_ok {P : α → Prop} {E : φ → Prop} {x : Except φ α} {a : α} (h : Ends P E x)
    (hx : x = .ok a) : P a := by
  rwa [hx] at h

theorem Ends.of_error {P : α → Prop} {E : φ → Prop} {x : Except φ α} {f : φ} (h : Ends P E x)
    (hx : x = .error f) : E f := by
  rwa [hx] at h

/-- What `x` returns, if it does, is in `P`. -/
abbrev Returns {φ α : Type*} (P : α → Prop) (x : Except φ α) : Prop := Ends P (fun _ => True) x

section Run

variable {σ ε φ : Type*} (step : σ → ε → Except φ σ)

/-- Every call of the run meets `C` in the state before it (a fault ends the run). -/
def Along (C : σ → ε → Prop) : σ → List ε → Prop
  | _, [] => True
  | s, e :: es => C s e ∧ match step s e with
    | .ok s' => Along C s' es
    | .error _ => True

/-- No call of the run faults, and every state it reaches has `P`. -/
def Safe (P : σ → Prop) : σ → List ε → Prop
  | _, [] => True
  | s, e :: es => match step s e with
    | .ok s' => P s' ∧ Safe P s' es
    | .error _ => False

/-- Every call of the run that returns relates the states before and after it by `Q` (a fault ends the run). -/
def EachStep (Q : σ → ε → σ → Prop) : σ → List ε → Prop
  | _, [] => True
  | s, e :: es => match step s e with
    | .ok s' => Q s e s' ∧ EachStep Q s' es
    | .error _ => True

/-- Every call of the run ends as `R` says (a fault ends the run). -/
def Outcomes (R : Except φ σ → Prop) : σ → List ε → Prop
  | _, [] => True
  | s, e :: es => R (step s e) ∧ match step s e with
    | .ok s' => Outcomes R s' es
    | .error _ => True

variable {step} {C : σ → ε → Prop} {P : σ → Prop} {Q : σ → ε → σ → Prop} {R : Except φ σ → Prop}

@[simp] theorem along_nil (s : σ) : Along step C s [] := trivial

theorem along_of_forall (hC : ∀ s e, C s e) : ∀ (es : List ε) (s : σ), Along step C s es
  | [], _ => trivial
  | e :: es, s => by
    refine ⟨hC s e, ?_⟩
    cases step s e with
    | error f => trivial
    | ok s' => exact along_of_forall hC es s'

variable {es : List ε} {e : ε} {s s' : σ}

theorem along_cons_ok (h : step s e = .ok s') : Along step C s (e :: es) ↔ C s e ∧ Along step C s' es := by
  simp only [Along, h]

theorem safe_cons_ok (h : step s e = .ok s') : Safe step P s (e :: es) ↔ P s' ∧ Safe step P s' es := by
  simp only [Safe, h]

theorem eachStep_cons_ok (h : step s e = .ok s') : EachStep step Q s (e :: es) ↔ Q s e s' ∧ EachStep step Q s' es := by
  simp only [EachStep, h]

theorem safe_cons_iff {s : σ} : Safe step P s (e :: es) ↔ ∃ s', step s e = .ok s' ∧ P s' ∧ Safe step P s' es := by
  cases h : step s e with
  | ok s' => simp [safe_cons_ok h]
  | error f => simp [Safe, h]

instance decidableAlong [∀ s e, Decidable (C s e)] : ∀ s es, Decidable (Along step C s es)
  | _, [] => isTrue trivial
  | s, e :: es =>
    match h : step s e with
    | .ok s' => have := decidableAlong s' es; decidable_of_iff _ (along_cons_ok h).symm
    | .error _ => decidable_of_iff (C s e) (by simp [Along, h])

instance decidableSafe [DecidablePred P] : ∀ s es, Decidable (Safe step P s es)
  | _, [] => isTrue trivial
  | s, e :: es =>
    match h : step s e with
    | .ok s' => have := decidableSafe s' es; decidable_of_iff _ (safe_cons_ok h).symm
    | .error _ => isFalse (by simp [Safe, h])

instance decidableEachStep [∀ s e s', Decidable (Q s e s')] : ∀ s es, Decidable (EachStep step Q s es)
  | _, [] => isTrue trivial
  | s, e :: es =>
    match h : step s e with
    | .ok s' => have := decidableEachStep s' es; decidable_of_iff _ (eachStep_cons_ok h).symm
    | .error _ => isTrue (by simp [EachStep, h])

variable {A : σ → ε → Prop}

theorem along_and : ∀ {s : σ} {es : List ε}, Along step (fun s e => A s e ∧ C s e) s es ↔ Along step A s es ∧ Along step C s es
  | _, [] => by simp
  | s, e :: es => by
    cases h : step s e with
    | ok s' =>
      rw [along_cons_ok h, along_cons_ok h, along_cons_ok h, along_and]
      exact and_and_and_comm
    | error f => simp [Along, h]

/-! ## Invariant rules -/

variable {I : σ → Prop}

/-- **Invariant rule.** If every call that meets `C` succeeds and keeps `I`, a run along `C` is safe. -/
theorem safe_of_along (hok : ∀ s e, I s → C s e → ∃ s', step s e = .ok s' ∧ I s') (hP : ∀ s, I s → P s) :
    ∀ es s, I s → Along step C s es → Safe step P s es
  | [], _, _, _ => trivial
  | e :: es, s, hI, hC => by
    obtain ⟨s', hs', hI'⟩ := hok s e hI hC.1
    rw [safe_cons_ok hs']
    exact ⟨hP s' hI', safe_of_along hok hP es s' hI' ((along_cons_ok hs').mp hC).2⟩

/-- **Invariant rule for steps.** If every call that meets `C` and returns is a step of `Q` that keeps `I`, every step
of a run along `C` is one of `Q`. -/
theorem eachStep_of_along (hstep : ∀ s e s', I s → C s e → step s e = .ok s' → Q s e s' ∧ I s') :
    ∀ es s, I s → Along step C s es → EachStep step Q s es
  | [], _, _, _ => trivial
  | e :: es, s, hI, hC => by
    cases h : step s e with
    | error f => simp [EachStep, h]
    | ok s' =>
      obtain ⟨hQ, hI'⟩ := hstep s e s' hI hC.1 h
      rw [eachStep_cons_ok h]
      exact ⟨hQ, eachStep_of_along hstep es s' hI' ((along_cons_ok h).mp hC).2⟩

/-- **Invariant rule for outcomes.** If every call that meets `C` ends as `R` says and keeps `I`, so do all calls of a
run along `C`. -/
theorem outcomes_of_along (hstep : ∀ s e, I s → C s e → R (step s e) ∧ ∀ s', step s e = .ok s' → I s') :
    ∀ es s, I s → Along step C s es → Outcomes step R s es
  | [], _, _, _ => trivial
  | e :: es, s, hI, hC => by
    obtain ⟨hR, hnext⟩ := hstep s e hI hC.1
    refine ⟨hR, ?_⟩
    cases h : step s e with
    | error f => trivial
    | ok s' => exact outcomes_of_along hstep es s' (hnext s' h) ((along_cons_ok h).mp hC).2

/-- **Invariant rule for conditions.** If every call that meets `C` in a state of `I` meets `A` too and keeps `I`, a run along
`C` is one along `A`. -/
theorem along_of_along (hstep : ∀ s e, I s → C s e → A s e ∧ ∀ s', step s e = .ok s' → I s') :
    ∀ es s, I s → Along step C s es → Along step A s es
  | [], _, _, _ => trivial
  | e :: es, s, hI, hC => by
    obtain ⟨hA, hnext⟩ := hstep s e hI hC.1
    refine ⟨hA, ?_⟩
    cases h : step s e with
    | error f => trivial
    | ok s' => exact along_of_along hstep es s' (hnext s' h) ((along_cons_ok h).mp hC).2

/-- **Exact rule for steps.** If no call faults, and a call is a step of `Q` exactly if it meets `C`, and then keeps the
invariant, the steps of a run are all in `Q` exactly if the run is one along `C`. -/
theorem eachStep_iff_along
    (hstep : ∀ s e, I s → A s e → ∃ s', step s e = .ok s' ∧ (Q s e s' ↔ C s e) ∧ (C s e → I s')) :
    ∀ es s, I s → Along step A s es → (EachStep step Q s es ↔ Along step C s es)
  | [], _, _, _ => Iff.rfl
  | e :: es, s, hI, hA => by
    obtain ⟨s', hs', hiff, hnext⟩ := hstep s e hI hA.1
    rw [eachStep_cons_ok hs', along_cons_ok hs', hiff]
    exact and_congr_right fun hC => eachStep_iff_along hstep es s' (hnext hC) ((along_cons_ok hs').mp hA).2

/-- **Exact invariant rule.** If the calls in `C` keep the invariant and a call outside `C` breaks `P` (or faults), the safe
runs are exactly those along `C`. -/
theorem safe_iff_along (hok : ∀ s e, I s → A s e → C s e → ∃ s', step s e = .ok s' ∧ I s') (hP : ∀ s, I s → P s)
    (hbad : ∀ s e s', I s → A s e → ¬ C s e → step s e = .ok s' → ¬ P s') :
    ∀ es s, I s → Along step A s es → (Safe step P s es ↔ Along step C s es)
  | [], _, _, _ => Iff.rfl
  | e :: es, s, hI, hA => by
    constructor
    · intro hsafe
      obtain ⟨s', hs', hPs', hrest⟩ := safe_cons_iff.mp hsafe
      have hC : C s e := Classical.byContradiction fun hC => hbad s e s' hI hA.1 hC hs' hPs'
      obtain ⟨t, ht, hIt⟩ := hok s e hI hA.1 hC
      obtain rfl : t = s' := by rw [hs'] at ht; injection ht with ht; exact ht.symm
      rw [along_cons_ok hs']
      exact ⟨hC, (safe_iff_along hok hP hbad es t hIt ((along_cons_ok hs').mp hA).2).mp hrest⟩
    · intro hC
      obtain ⟨s', hs', hI'⟩ := hok s e hI hA.1 hC.1
      rw [safe_cons_ok hs']
      have hA' := ((along_cons_ok hs').mp hA).2
      exact ⟨hP s' hI', (safe_iff_along hok hP hbad es s' hI' hA').mpr ((along_cons_ok hs').mp hC).2⟩

end Run

theorem Safe.last {σ ε φ : Type} {step : σ → ε → Except φ σ} {P : σ → Prop} {s' : σ} :
    ∀ {es : List ε} {s : σ}, Safe step P s es → P s → es.foldlM step s = .ok s' → P s'
  | [], _, _, hs, hrun => by
    cases hrun
    exact hs
  | e :: es, s, hsafe, _, hrun => by
    obtain ⟨t, ht, hP, hrest⟩ := safe_cons_iff.mp hsafe
    rw [List.foldlM_cons, ht] at hrun
    exact hrest.last hP hrun

theorem not_outcomes_of_fault {σ ε φ : Type} {step : σ → ε → Except φ σ} {R : Except φ σ → Prop} {f : φ}
    (hf : ¬ R (.error f)) : ∀ {es : List ε} {s : σ}, es.foldlM step s = .error f → ¬ Outcomes step R s es
  | [], _, h => by cases h
  | e :: es, s, h => by
    intro hout
    rw [List.foldlM_cons] at h
    obtain ⟨hR, hrest⟩ := hout
    cases hstep : step s e with
    | error g =>
      rw [hstep] at h hR
      cases h
      exact hf hR
    | ok s' =>
      rw [hstep] at h hrest
      exact not_outcomes_of_fault hf h hrest

end Mediasoup.Lib
