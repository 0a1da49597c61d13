import CombatContent.Text.Scan

/-!
# What readers of text answer

A property that every answer of a reader has, whatever text it reads. A reader made of others gives
it if the last of them does, and a reader that repeats a step gives what the step keeps.

## Main definitions

* `Scan.Gives`: all answers of a reader have a property.

## Main results

* `Scan.Gives.of_run'`: what is answered to a whole text.
* `Scan.gives_bind_of`: readers made of others.
* `Scan.gives_forIn`, `Scan.gives_repeatWhile`: repeated readers.
-/

namespace CombatContent.Scan

variable {ε α β σ : Type} {P : α → Prop} {Q : β → Prop}

/-- Every answer of a reader has the property. -/
def Gives (P : α → Prop) (r : Scan ε α) : Prop :=
  ∀ ⦃rest a rest'⦄, r rest = .ok (a, rest') → P a

/-- What a reader gives is what it answers to a whole text. -/
theorem Gives.of_run' {r : Scan ε α} (h : Gives P r) {cs : List Char} {a : α}
    (ha : r.run' cs = .ok a) : P a := by
  rw [StateT.run'] at ha
  cases hr : r cs with
  | error e =>
    rw [hr] at ha
    cases ha
  | ok answer =>
    rw [hr] at ha
    cases ha
    exact h hr

theorem Gives.of_toOption_run' {r : Scan ε α} (h : Gives P r) {cs : List Char} {a : α}
    (ha : (r.run' cs).toOption = some a) : P a := by
  generalize hr : r.run' cs = answer at ha
  cases answer with
  | error e => cases ha
  | ok b =>
    cases ha
    exact h.of_run' hr

theorem gives_pure {a : α} (h : P a) : Gives P (pure a : Scan ε α) := by
  rintro rest b rest' hb
  cases hb
  exact h

theorem gives_throw (e : ε) : Gives P (throw e : Scan ε α) := by
  rintro rest a rest' ha
  cases ha

/-- What follows a reader may rely on what that reader gives. -/
theorem gives_bind_of {x : Scan ε β} {f : β → Scan ε α} (hx : Gives Q x)
    (hf : ∀ b, Q b → Gives P (f b)) : Gives P (x >>= f) := by
  rintro rest a rest' ha
  cases hx' : x rest with
  | error e => simp [bind, StateT.bind, Except.bind, hx'] at ha
  | ok answer =>
    have hnext : f answer.1 answer.2 = .ok (a, rest') := by
      simpa [bind, StateT.bind, Except.bind, hx'] using ha
    exact hf answer.1 (hx hx') hnext

/-- Only the last reader counts where the others give nothing. -/
theorem gives_bind {x : Scan ε β} {f : β → Scan ε α} (hf : ∀ b, Gives P (f b)) :
    Gives P (x >>= f) :=
  gives_bind_of (Q := fun _ => True) (fun _ _ _ _ => trivial) fun b _ => hf b

theorem gives_ite {c : Prop} [Decidable c] {x y : Scan ε α} (hx : Gives P x) (hy : Gives P y) :
    Gives P (if c then x else y) := by
  split
  · exact hx
  · exact hy

/-- A reader that comes first only under a condition does not count. -/
theorem gives_guard {c : Prop} [Decidable c] {x : Scan ε Unit} {next : Unit → Scan ε α}
    (h : ∀ u, Gives P (next u)) : Gives P (if c then x >>= next else next ()) :=
  gives_ite (gives_bind h) (h ())

/-- A loop over a list gives what each round keeps. -/
theorem gives_forIn {I : σ → Prop} {f : β → σ → Scan ε (ForInStep σ)}
    (hf : ∀ x s, I s → Gives (fun r => I r.value) (f x s)) (xs : List β) {s : σ} (hs : I s) :
    Gives I (forIn xs s f) := by
  induction xs generalizing s with
  | nil => exact gives_pure hs
  | cons x xs ih =>
    rw [List.forIn_cons]
    refine gives_bind_of (hf x s hs) fun r hr => ?_
    cases r with
    | done s => exact gives_pure hr
    | yield s => exact ih hr

/-- A repeated step gives what it keeps. -/
theorem gives_repeatWhile {I : σ → Prop} {step : σ → Scan ε (σ × Bool)}
    (hstep : ∀ s, I s → Gives (fun p => I p.1) (step s)) {s : σ} (hs : I s) :
    Gives I (repeatWhile step s) := by
  intro rest a rest' ha
  induction s, rest using repeatWhile.induct step with
  | case1 s rest e hs' =>
    rw [repeatWhile, hs'] at ha
    cases ha
  | case2 s rest s' more rest₁ hs' hmore ih =>
    rw [repeatWhile, hs'] at ha
    dsimp only at ha
    rw [dif_pos hmore] at ha
    exact ih (hstep s hs hs') ha
  | case3 s rest s' more rest₁ hs' hmore =>
    rw [repeatWhile, hs'] at ha
    dsimp only at ha
    rw [dif_neg hmore] at ha
    cases ha
    exact hstep s hs hs'

end CombatContent.Scan
