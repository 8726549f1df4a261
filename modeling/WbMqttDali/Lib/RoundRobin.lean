import Mathlib

/-!
# Round-robin service

A list with a cursor is served at the cursor, which goes on by one, or stays where the entry
leaves the list.  From the cursor on, around the end, the list is a queue: the entry that is
served leaves it or goes to its end.
-/

namespace WbMqttDali.RoundRobin

variable {α : Type*} {l queue rest : List α} {x : α} {cursor : ℕ}

/-! ### The list behind the queue -/

lemma getElem?_mod : l[cursor % l.length]? = (l.rotate cursor).head? := by
  cases l with
  | nil => simp
  | cons a l =>
    have hlt : cursor % (a :: l).length < (a :: l).length := Nat.mod_lt _ (by simp)
    rw [List.rotate_eq_drop_append_take_mod, List.head?_append_of_ne_nil, List.head?_drop]
    simpa using hlt

/-- The list on both sides of the place that is served. -/
lemma exists_split (h : l.rotate cursor = x :: rest) :
    ∃ front back, l = front ++ x :: back ∧ front.length = cursor % l.length ∧
      rest = back ++ front := by
  have hne : l ≠ [] := by
    rintro rfl
    simp at h
  have hlt : cursor % l.length < l.length := Nat.mod_lt _ (List.length_pos_iff.2 hne)
  rw [List.rotate_eq_drop_append_take_mod] at h
  have hdrop := List.drop_eq_getElem_cons hlt
  rw [hdrop, List.cons_append, List.cons.injEq] at h
  obtain ⟨hx, hrest⟩ := h
  refine ⟨l.take (cursor % l.length), l.drop (cursor % l.length + 1), ?_, ?_, hrest.symm⟩
  · rw [← hx, ← hdrop, List.take_append_drop]
  · rw [List.length_take, min_eq_left hlt.le]

/-- The entry that is served leaves the list, and the cursor stays. -/
lemma rotate_eraseIdx (h : l.rotate cursor = x :: rest) :
    (l.eraseIdx (cursor % l.length)).rotate (cursor % l.length) = rest := by
  obtain ⟨front, back, hl, hlength, hrest⟩ := exists_split h
  have herase : l.eraseIdx (cursor % l.length) = front ++ back := by
    rw [← hlength, hl, List.eraseIdx_append_of_length_le le_rfl, Nat.sub_self,
      List.eraseIdx_zero, List.tail_cons]
  rw [herase, ← hlength, List.rotate_append_length_eq, hrest]

/-- The entry that is served stays in the list, and the cursor goes on. -/
lemma rotate_succ (h : l.rotate cursor = x :: rest) :
    l.rotate (cursor % l.length + 1) = rest ++ [x] := by
  obtain ⟨front, back, hl, hlength, hrest⟩ := exists_split h
  have hregroup : l = (front ++ [x]) ++ back := by rw [hl, List.append_assoc, List.cons_append,
    List.nil_append]
  have hfront : (front ++ [x]).length = cursor % l.length + 1 := by simp [hlength]
  rw [← hfront]
  conv_lhs => rw [hregroup]
  rw [List.rotate_append_length_eq, hrest, List.append_assoc]

/-! ### The queue -/

/-- The queue behind the service of its first entry. -/
def serve (leaves : Bool) : List α → List α
  | [] => []
  | x :: rest => if leaves then rest else rest ++ [x]

@[simp] lemma serve_nil {leaves : Bool} : serve leaves ([] : List α) = [] := rfl

lemma serve_cons {leaves : Bool} :
    serve leaves (x :: rest) = if leaves then rest else rest ++ [x] := rfl

/-- The queue behind a service for each of the answers whether the entry leaves. -/
def serveAll (outcomes : List Bool) (queue : List α) : List α :=
  outcomes.foldl (fun queue leaves => serve leaves queue) queue

/-- The entries that are served. -/
def served : List Bool → List α → List α
  | [], _ => []
  | leaves :: outcomes, queue => queue.head?.toList ++ served outcomes (serve leaves queue)

@[simp] lemma serveAll_nil : serveAll [] queue = queue := rfl

@[simp] lemma serveAll_cons {leaves : Bool} {outcomes : List Bool} :
    serveAll (leaves :: outcomes) queue = serveAll outcomes (serve leaves queue) := rfl

/-- Of a queue that others wait behind, each entry of the front is served once, in order; those
that stay are behind the others then. -/
lemma serve_front (outcomes : List Bool) (front back : List α)
    (h : outcomes.length = front.length) :
    served outcomes (front ++ back) = front ∧
      serveAll outcomes (front ++ back) =
        back ++ ((front.zip outcomes).filter fun entry => !entry.2).map Prod.fst := by
  induction outcomes generalizing front back with
  | nil =>
    have hnil : front = [] := by simpa using h.symm
    subst hnil
    simp [served]
  | cons leaves outcomes ih =>
    cases front with
    | nil => simp at h
    | cons x front =>
      have hlength : outcomes.length = front.length := by simpa using h
      cases leaves with
      | true =>
        obtain ⟨hserved, hafter⟩ := ih front back hlength
        constructor
        · simp [served, serve_cons, hserved]
        · simp [serve_cons, hafter]
      | false =>
        obtain ⟨hserved, hafter⟩ := ih front (back ++ [x]) hlength
        constructor
        · simp [served, serve_cons, hserved]
        · simp [serve_cons, hafter]

/-- A round serves every entry once, in the order of the queue. -/
theorem served_round (outcomes : List Bool) (h : outcomes.length = queue.length) :
    served outcomes queue = queue := by
  simpa using (serve_front outcomes queue [] h).1

/-- Behind a round the entries that stay are in the same order. -/
theorem serveAll_round (outcomes : List Bool) (h : outcomes.length = queue.length) :
    serveAll outcomes queue =
      ((queue.zip outcomes).filter fun entry => !entry.2).map Prod.fst := by
  simpa using (serve_front outcomes queue [] h).2

end WbMqttDali.RoundRobin
