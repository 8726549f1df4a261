import Mathlib

/-!
# Coroutines that are interrupted at their awaits

A coroutine makes requests of its surroundings and awaits their answers.  At each await the
surroundings may also interrupt it, by an exception or a cancellation, before or after the
request is made.  `tryFinally` runs a second coroutine however the first one ends, and the second
one may be interrupted in its turn.  `Ensures` is the weakest precondition of a coroutine on
the log of its awaits.
-/

namespace WbMqttDali

/-- What an await comes to. -/
inductive Outcome (α : Type) where
  | returns (answer : α)
  /-- By an exception or a cancellation; the request may have been made. -/
  | raises (requested : Bool)
  deriving DecidableEq, Repr

/-- The requests of a coroutine and what they come to, in order. -/
abbrev AwaitLog (ρ : Type) (β : ρ → Type) : Type := List (Σ request, Outcome (β request))

/-- A coroutine with requests in `ρ` and their answers in `β`. -/
inductive Coroutine (ρ : Type) (β : ρ → Type) (α : Type) where
  | done (result : α)
  | raised
  | await (request : ρ) (next : β request → Coroutine ρ β α) (interrupted : Coroutine ρ β α)

namespace Coroutine

variable {ρ : Type} {β : ρ → Type} {α γ δ : Type}

protected def bind : Coroutine ρ β α → (α → Coroutine ρ β γ) → Coroutine ρ β γ
  | done result, next => next result
  | raised, _ => raised
  | await request answered interrupted, next =>
    await request (fun answer => (answered answer).bind next) (interrupted.bind next)

instance : Monad (Coroutine ρ β) where
  pure := done
  bind := Coroutine.bind

/-- The await of a request, which is not caught. -/
def call (request : ρ) : Coroutine ρ β (β request) :=
  await request done raised

/-- `try: … finally: …` -/
def tryFinally : Coroutine ρ β α → Coroutine ρ β Unit → Coroutine ρ β α
  | done result, last => last.bind fun _ => done result
  | raised, last => last.bind fun _ => raised
  | await request answered interrupted, last =>
    await request (fun answer => (answered answer).tryFinally last) (interrupted.tryFinally last)

/-- `try: … except Exception: …; raise` -/
def tryExcept : Coroutine ρ β α → Coroutine ρ β Unit → Coroutine ρ β α
  | done result, _ => done result
  | raised, handler => handler.bind fun _ => raised
  | await request answered interrupted, handler =>
    await request (fun answer => (answered answer).tryExcept handler)
      (interrupted.tryExcept handler)

/-- `for … in …`, over a list. -/
def forEach {ι : Type} (body : ι → Coroutine ρ β Unit) : List ι → Coroutine ρ β Unit
  | [] => done ()
  | i :: is => (body i).bind fun _ => forEach body is

/-! ### Runs -/

/-- The result of a coroutine, which is none if it raises, and its log, for what each await comes
to after those before it. -/
def run (surroundings : AwaitLog ρ β → ∀ request, Outcome (β request)) :
    Coroutine ρ β α → AwaitLog ρ β → Option α × AwaitLog ρ β
  | done result, log => (some result, log)
  | raised, log => (none, log)
  | await request answered interrupted, log =>
    match surroundings log request with
    | .returns answer => run surroundings (answered answer) (log ++ [⟨request, .returns answer⟩])
    | .raises requested => run surroundings interrupted (log ++ [⟨request, .raises requested⟩])

lemma run_bind {coroutine : Coroutine ρ β α} {next : α → Coroutine ρ β γ} {log : AwaitLog ρ β}
    (surroundings : AwaitLog ρ β → ∀ request, Outcome (β request)) :
    (coroutine.bind next).run surroundings log =
      match coroutine.run surroundings log with
      | (some result, log) => (next result).run surroundings log
      | (none, log) => (none, log) := by
  induction coroutine generalizing log with
  | done result => rfl
  | raised => rfl
  | await request answered interrupted ih ih' =>
    rw [Coroutine.bind, run, run]
    cases surroundings log request with
    | returns answer => exact ih answer
    | raises requested => exact ih'

/-- Whatever the awaits come to, the coroutine ends with a result and a log in `Q`, or raises
with a log in `R`. -/
def Ensures (Q : α → AwaitLog ρ β → Prop) (R : AwaitLog ρ β → Prop) :
    Coroutine ρ β α → AwaitLog ρ β → Prop
  | done result, log => Q result log
  | raised, log => R log
  | await request answered interrupted, log =>
    (∀ answer, Ensures Q R (answered answer) (log ++ [⟨request, .returns answer⟩])) ∧
      ∀ requested, Ensures Q R interrupted (log ++ [⟨request, .raises requested⟩])

variable {Q Q' : α → AwaitLog ρ β → Prop} {R R' : AwaitLog ρ β → Prop} {log : AwaitLog ρ β}
  {coroutine : Coroutine ρ β α}

/-- What is ensured holds of every run. -/
theorem Ensures.run (h : coroutine.Ensures Q R log)
    (surroundings : AwaitLog ρ β → ∀ request, Outcome (β request)) :
    (∀ result log', coroutine.run surroundings log = (some result, log') → Q result log') ∧
      ∀ log', coroutine.run surroundings log = (none, log') → R log' := by
  induction coroutine generalizing log with
  | done result =>
    refine ⟨fun result' log' heq => ?_, fun log' heq => ?_⟩
    · cases heq
      exact h
    · cases heq
  | raised =>
    refine ⟨fun result' log' heq => ?_, fun log' heq => ?_⟩
    · cases heq
    · cases heq
      exact h
  | await request answered interrupted ih ih' =>
    unfold Coroutine.run
    cases surroundings log request with
    | returns answer => exact ih answer (h.1 answer)
    | raises requested => exact ih' (h.2 requested)

/-! ### Rules -/

theorem Ensures.mono (h : coroutine.Ensures Q R log)
    (hQ : ∀ result log, Q result log → Q' result log)
    (hR : ∀ log, R log → R' log) : coroutine.Ensures Q' R' log := by
  induction coroutine generalizing log with
  | done result => exact hQ _ _ h
  | raised => exact hR _ h
  | await request answered interrupted ih ih' =>
    exact ⟨fun answer => ih answer (h.1 answer), fun requested => ih' (h.2 requested)⟩

theorem ensures_bind {next : α → Coroutine ρ β γ} {Q : γ → AwaitLog ρ β → Prop} :
    (coroutine.bind next).Ensures Q R log ↔
      coroutine.Ensures (fun result log => (next result).Ensures Q R log) R log := by
  induction coroutine generalizing log with
  | done result => exact Iff.rfl
  | raised => exact Iff.rfl
  | await request answered interrupted ih ih' =>
    exact and_congr (forall_congr' fun answer => ih answer) (forall_congr' fun _ => ih')

theorem ensures_call {request : ρ} {Q : β request → AwaitLog ρ β → Prop} :
    (call request).Ensures Q R log ↔
      (∀ answer, Q answer (log ++ [⟨request, .returns answer⟩])) ∧
        ∀ requested, R (log ++ [⟨request, .raises requested⟩]) := Iff.rfl

/-- The second coroutine runs after a result and after an exception; if it raises, so does the
whole. -/
theorem ensures_tryFinally {last : Coroutine ρ β Unit} :
    (coroutine.tryFinally last).Ensures Q R log ↔
      coroutine.Ensures (fun result log => last.Ensures (fun _ log => Q result log) R log)
        (fun log => last.Ensures (fun _ log => R log) R log) log := by
  induction coroutine generalizing log with
  | done result => exact ensures_bind
  | raised => exact ensures_bind
  | await request answered interrupted ih ih' =>
    exact and_congr (forall_congr' fun answer => ih answer) (forall_congr' fun _ => ih')

/-- The handler runs after an exception, which it raises again. -/
theorem ensures_tryExcept {handler : Coroutine ρ β Unit} :
    (coroutine.tryExcept handler).Ensures Q R log ↔
      coroutine.Ensures Q (fun log => handler.Ensures (fun _ log => R log) R log) log := by
  induction coroutine generalizing log with
  | done result => exact Iff.rfl
  | raised => exact ensures_bind
  | await request answered interrupted ih ih' =>
    exact and_congr (forall_congr' fun answer => ih answer) (forall_congr' fun _ => ih')

/-- The invariant rule of a loop, whose invariant may mention what is left to do. -/
theorem ensures_forEach {ι : Type} {body : ι → Coroutine ρ β Unit} {is : List ι}
    (I : List ι → AwaitLog ρ β → Prop)
    (hbody : ∀ i is log, I (i :: is) log → (body i).Ensures (fun _ log => I is log) R log)
    (h : I is log) : (forEach body is).Ensures (fun _ log => I [] log) R log := by
  induction is generalizing log with
  | nil => exact h
  | cons i is ih =>
    exact ensures_bind.2
      ((hbody i is log h).mono (fun _ _ hnext => ih hnext) fun _ hraised => hraised)

theorem ensures_of_forall (hQ : ∀ result log, Q result log) (hR : ∀ log, R log) :
    coroutine.Ensures Q R log := by
  induction coroutine generalizing log with
  | done result => exact hQ _ _
  | raised => exact hR _
  | await request answered interrupted ih ih' => exact ⟨fun answer => ih answer, fun _ => ih'⟩

end Coroutine

end WbMqttDali
