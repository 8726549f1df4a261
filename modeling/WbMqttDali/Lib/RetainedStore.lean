import Mathlib.Logic.Function.Basic

/-!
# Retained payloads

A broker keeps the last payload that was published to a topic with the retain flag; an empty
payload deletes it.  Publishes to other topics, and those without the flag, leave a topic alone,
so that what it shows after some publishes depends on what it showed before and on nothing else.
-/

namespace WbMqttDali.RetainedStore

/-- Payloads with an empty one. -/
class EmptyPayload (π : Type*) where
  empty : π

/-- A publish. -/
structure Call (τ π : Type*) where
  topic : τ
  payload : Option π
  retain : Bool := true
  deriving DecidableEq, Repr

/-- The retained payloads of a broker. -/
abbrev Store (τ π : Type*) := τ → Option π

variable {τ π : Type*} [DecidableEq τ] [DecidableEq π] [EmptyPayload π]

/-- What a broker keeps of a retained payload: an empty one deletes the topic. -/
def retainedOf (payload : Option π) : Option π := payload.filter (· ≠ EmptyPayload.empty)

def Store.apply (store : Store τ π) (call : Call τ π) : Store τ π :=
  if call.retain then Function.update store call.topic (retainedOf call.payload) else store

def Store.applyAll (store : Store τ π) (calls : List (Call τ π)) : Store τ π :=
  calls.foldl Store.apply store

variable {store store' : Store τ π} {call : Call τ π} {calls calls' : List (Call τ π)} {topic : τ}

@[simp] lemma Store.applyAll_nil : store.applyAll [] = store := rfl

@[simp] lemma Store.applyAll_cons :
    store.applyAll (call :: calls) = (store.apply call).applyAll calls := rfl

@[simp] lemma Store.applyAll_append :
    store.applyAll (calls ++ calls') = (store.applyAll calls).applyAll calls' :=
  List.foldl_append

lemma Store.apply_of_ne (h : topic ≠ call.topic) : store.apply call topic = store topic := by
  unfold Store.apply
  split
  · exact Function.update_of_ne h ..
  · rfl

lemma Store.apply_self (h : call.retain = true) :
    store.apply call call.topic = retainedOf call.payload := by
  rw [Store.apply, if_pos h, Function.update_self]

lemma Store.apply_not_retained (h : call.retain = false) : store.apply call = store := by
  rw [Store.apply, h]
  rfl

lemma Store.applyAll_of_ne (h : ∀ call ∈ calls, call.topic ≠ topic) :
    store.applyAll calls topic = store topic := by
  induction calls generalizing store with
  | nil => rfl
  | cons call calls ih =>
    rw [Store.applyAll_cons, ih fun c hc => h c (List.mem_cons_of_mem _ hc)]
    exact Store.apply_of_ne (h call List.mem_cons_self).symm

/-- What a topic shows in the end depends on what it shows now. -/
lemma Store.applyAll_congr (h : store' topic = store topic) :
    store'.applyAll calls topic = store.applyAll calls topic := by
  induction calls generalizing store store' with
  | nil => exact h
  | cons call calls ih =>
    refine ih ?_
    unfold Store.apply
    split
    · by_cases heq : topic = call.topic
      · rw [heq, Function.update_self, Function.update_self]
      · rw [Function.update_of_ne heq, Function.update_of_ne heq, h]
    · exact h

end WbMqttDali.RetainedStore
