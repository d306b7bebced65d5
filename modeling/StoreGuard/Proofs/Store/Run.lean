namespace StoreGuard

variable {ι σ ω : Type}

/-- The answers to operations carried out one after the other, and the state after the last one. -/
def runAll (step : ι → σ → ω × σ) : List ι → σ → List ω × σ
  | [], s => ([], s)
  | op :: ops, s =>
    let (answer, next) := step op s
    let (answers, last) := runAll step ops next
    (answer :: answers, last)

theorem runAll_cons (step : ι → σ → ω × σ) (op : ι) (ops : List ι) (s : σ) :
    runAll step (op :: ops) s =
      ((step op s).1 :: (runAll step ops (step op s).2).1, (runAll step ops (step op s).2).2) :=
  rfl

theorem runAll_append (step : ι → σ → ω × σ) (ops later : List ι) (s : σ) :
    runAll step (ops ++ later) s =
      ((runAll step ops s).1 ++ (runAll step later (runAll step ops s).2).1,
        (runAll step later (runAll step ops s).2).2) := by
  induction ops generalizing s with
  | nil => rfl
  | cons op ops ih => rw [List.cons_append, runAll_cons, ih, runAll_cons, List.cons_append]

theorem length_runAll (step : ι → σ → ω × σ) (ops : List ι) (s : σ) :
    (runAll step ops s).1.length = ops.length := by
  induction ops generalizing s with
  | nil => rfl
  | cons op ops ih => rw [runAll_cons, List.length_cons, List.length_cons, ih]

/-- An operation is answered as in the state that the operations before it lead to. -/
theorem runAll_answer (step : ι → σ → ω × σ) (before after : List ι) (op : ι) (s : σ) :
    (runAll step (before ++ op :: after) s).1[before.length]? =
      some (step op (runAll step before s).2).1 := by
  have hlen : (runAll step before s).1.length = before.length := length_runAll ..
  rw [runAll_append]
  dsimp only
  rw [List.getElem?_append_right (Nat.le_of_eq hlen), hlen, Nat.sub_self]
  rfl

theorem runAll_concat (step : ι → σ → ω × σ) (before : List ι) (op : ι) (s : σ) :
    (runAll step (before ++ [op]) s).2 = (step op (runAll step before s).2).2 := by
  rw [runAll_append]
  rfl

/-- What every step keeps, a run keeps. -/
theorem runAll_preserves {P : σ → Prop} {step : ι → σ → ω × σ}
    (hstep : ∀ op s, P s → P (step op s).2) (ops : List ι) {s : σ} (hs : P s) :
    P (runAll step ops s).2 := by
  induction ops generalizing s with
  | nil => exact hs
  | cons op ops ih => exact ih (hstep op s hs)

end StoreGuard
