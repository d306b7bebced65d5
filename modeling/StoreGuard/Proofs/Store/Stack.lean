import StoreGuard.Proofs.Store.Guard
import StoreGuard.Proofs.Store.Run

namespace StoreGuard

variable {σ : Type}

/-- How a store answers a request, without the marks of the checks. -/
def Store.step (s : Store σ) (r : Request) (state : σ) : Outcome × σ := (s r state).value

/-- Counting changes no answer, and adds up the requests. -/
theorem runAll_counted (s : Store σ) (rs : List Request) (c : Counted σ) :
    (runAll s.counted.step rs c).2 =
      ⟨(runAll s.step rs c.state).2, rs.foldl Calls.add c.calls⟩ := by
  induction rs generalizing c with
  | nil => rfl
  | cons r rs ih =>
    rw [runAll_cons, ih]
    rfl

/-- A request, and the number of layers that lie outside the place where it is issued. -/
structure Issued where
  depth : Nat
  request : Request

namespace Stack

/-- The layers that an operation has yet to pass: all of them, some inner ones, or none. -/
def ahead (stack : Stack) (op : Issued) : Stack := stack.drop op.depth

/-- From any place where operations are issued, `inner` leads to such a place. -/
theorem exists_inner_ahead (stack : Stack) (op : Issued) :
    ∃ depth, (stack.ahead op).inner = stack.ahead ⟨depth, op.request⟩ := by
  cases hahead : stack.ahead op with
  | nil => exact ⟨op.depth, hahead.symm⟩
  | cons layer rest =>
    cases layer with
    | guard g =>
      refine ⟨op.depth + 1, ?_⟩
      have hdrop : stack.drop (op.depth + 1) = (stack.drop op.depth).tail := List.drop_add_one_eq_tail_drop
      rw [ahead, hdrop, ← ahead, hahead]
      rfl
    | pointer => exact ⟨op.depth, hahead.symm⟩

def serve (stack : Stack) (s : Store σ) (op : Issued) (state : σ) : Outcome × σ :=
  ((stack.ahead op).protect s).step op.request state

theorem serve_of_admits {stack : Stack} {op : Issued} (h : (stack.ahead op).Admits op.request)
    (s : Store σ) (state : σ) : stack.serve s op state = s.step op.request state :=
  value_protect_of_admits h s state

theorem serve_of_not_admits {stack : Stack} {op : Issued}
    (h : ¬(stack.ahead op).Admits op.request) (s : Store σ) (state : σ) :
    ∃ v, ((stack.ahead op).violations op.request).head? = some v ∧
      stack.serve s op state = (.error (.violation v), state) :=
  value_protect_of_not_admits h s state

def admitted (stack : Stack) (ops : List Issued) : List Request :=
  (ops.filter fun op => ((stack.ahead op).violations op.request).isEmpty).map Issued.request

theorem admitted_cons_of_admits {stack : Stack} {op : Issued}
    (h : (stack.ahead op).Admits op.request) (ops : List Issued) :
    stack.admitted (op :: ops) = op.request :: stack.admitted ops := by
  have hnil := violations_eq_nil_iff.2 h
  simp [admitted, hnil]

theorem admitted_cons_of_not_admits {stack : Stack} {op : Issued}
    (h : ¬(stack.ahead op).Admits op.request) (ops : List Issued) :
    stack.admitted (op :: ops) = stack.admitted ops := by
  have hne : (stack.ahead op).violations op.request ≠ [] := fun hnil =>
    h (violations_eq_nil_iff.1 hnil)
  simp [admitted, hne]

/-- Any base is led where the admitted requests alone would lead it. -/
theorem runAll_serve (stack : Stack) (s : Store σ) (ops : List Issued) (state : σ) :
    (runAll (stack.serve s) ops state).2 = (runAll s.step (stack.admitted ops) state).2 := by
  -- A rejected operation drops out of the shorter run, and leaves the state where that one stands.
  induction ops generalizing state with
  | nil => rfl
  | cons op ops ih =>
    rw [runAll_cons]
    by_cases h : (stack.ahead op).Admits op.request
    · rw [serve_of_admits h, admitted_cons_of_admits h, runAll_cons]
      exact ih _
    · obtain ⟨v, -, hv⟩ := serve_of_not_admits h s state
      rw [hv, admitted_cons_of_not_admits h]
      exact ih _

/-- A stack over a counted memory is a memory for the operations that every layer ahead of them
admits, each of which is one call. All others change nothing, whether the memory is open or closed,
and are answered with the first violation met on the way inwards. Operations can be issued wherever
`inner` leads. -/
theorem stack_refines_memory (stack : Stack) (before after : List Issued) (op : Issued) :
    let base := Memory.store.counted
    let fresh : Counted Memory := ⟨.new, .zero⟩
    let s := (runAll (stack.serve base) before fresh).2
    let next := (runAll (stack.serve base) (before ++ [op]) fresh).2
    let answer := (runAll (stack.serve base) (before ++ op :: after) fresh).1[before.length]?
    s.state = (runAll Memory.run (stack.admitted before) .new).2 ∧
      s.calls = (stack.admitted before).foldl Calls.add .zero ∧
      ((stack.ahead op).Admits op.request →
        answer = some (Memory.run op.request s.state).1 ∧
          next.state = (Memory.run op.request s.state).2 ∧
          next.calls = s.calls.add op.request) ∧
      (¬(stack.ahead op).Admits op.request →
        next = s ∧ ∃ v, ((stack.ahead op).violations op.request).head? = some v ∧
          answer = some (.error (.violation v))) ∧
      ∃ depth, (stack.ahead op).inner = stack.ahead ⟨depth, op.request⟩ := by
  intro base fresh s next answer
  have hs : s = ⟨(runAll Memory.run (stack.admitted before) .new).2,
      (stack.admitted before).foldl Calls.add .zero⟩ :=
    (runAll_serve stack base before fresh).trans (runAll_counted Memory.store _ fresh)
  have hanswer : answer = some (stack.serve base op s).1 := runAll_answer ..
  have hnext : next = (stack.serve base op s).2 := runAll_concat ..
  refine ⟨congrArg Counted.state hs, congrArg Counted.calls hs, fun hadmits => ?_,
    fun hnot => ?_, stack.exists_inner_ahead op⟩
  · rw [serve_of_admits hadmits base s] at hanswer hnext
    exact ⟨hanswer, congrArg Counted.state hnext, congrArg Counted.calls hnext⟩
  · obtain ⟨v, hfirst, hserve⟩ := serve_of_not_admits hnot base s
    rw [hserve] at hanswer hnext
    exact ⟨hnext, v, hfirst, hanswer⟩

end Stack

end StoreGuard
