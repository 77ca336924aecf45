import Mathlib.Data.List.Induction

/-!
# Runs that can fail

A fold or a map over a list stops at the first item that fails.  The lemmas here say what a run over
a list does from what it does on each item.
-/

namespace InstructionTable

variable {Item State Value Error : Type}

/-- A fold that came as far as the last item goes on with it. -/
theorem foldlM_concat_of_eq_ok
    {step : State → Item → Except Error State}
    {start reached : State}
    {items : List Item}
    (walked : items.foldlM step start = .ok reached)
    (item : Item) :
    (items ++ [item]).foldlM step start = step reached item := by
  rw [List.foldlM_append, walked]
  exact bind_pure (step reached item)

/-- A fold that failed does not look at the last item. -/
theorem foldlM_concat_of_eq_error
    {step : State → Item → Except Error State}
    {start : State}
    {items : List Item}
    {error : Error}
    (failed : items.foldlM step start = .error error)
    (item : Item) :
    (items ++ [item]).foldlM step start = .error error := by
  rw [List.foldlM_append, failed]
  rfl

theorem ok_bind
    {Next : Type}
    (value : Value)
    (next : Value → Except Error Next) :
    (Except.ok value >>= next) = next value := rfl

theorem mapError_eq_ok_iff
    {Other : Type}
    {replace : Error → Other}
    {result : Except Error Value}
    {value : Value} :
    result.mapError replace = .ok value ↔ result = .ok value := by
  cases result with
  | error error => exact iff_of_false nofun nofun
  | ok given => exact ⟨fun same => congrArg _ (Except.ok.inj same),
      fun same => congrArg _ (Except.ok.inj same)⟩

/-- A value, unless something is wrong with it. -/
def refuseOr
    (error? : Option Error)
    (value : Value) : Except Error Value :=
  match error? with
  | some error => .error error
  | none => .ok value

@[simp] theorem refuseOr_some (error : Error) (value : Value) :
    refuseOr (some error) value = .error error := rfl

@[simp] theorem refuseOr_none (value : Value) :
    refuseOr (none : Option Error) value = .ok value := rfl

theorem refuseOr_eq_ok_iff
    {error? : Option Error}
    {value given : Value} :
    refuseOr error? value = .ok given ↔ error? = none ∧ value = given := by
  cases error? with
  | some error => simp
  | none => simp

theorem refuseOr_eq_error_iff
    {error? : Option Error}
    {value : Value}
    {error : Error} :
    refuseOr error? value = .error error ↔ error? = some error := by
  cases error? with
  | some first => simp
  | none => simp

/-- Checks that agree on every item find the same. -/
theorem findSome?_congr
    {check other : Item → Option Value}
    {items : List Item}
    (agree : ∀ item ∈ items, check item = other item) :
    items.findSome? check = items.findSome? other := by
  induction items with
  | nil => rfl
  | cons item rest inductionHypothesis =>
      have tail := inductionHypothesis fun next member =>
        agree next (List.mem_cons_of_mem item member)
      rw [List.findSome?_cons, List.findSome?_cons, agree item List.mem_cons_self, tail]

/-- A check finds something first at the first item that it stops at. -/
theorem findSome?_eq_bind_find?
    {check : Item → Option Value}
    {stops : Item → Bool}
    {items : List Item}
    (agree : ∀ item ∈ items, (check item).isSome = stops item) :
    items.findSome? check = (items.find? stops).bind check := by
  induction items with
  | nil => rfl
  | cons item rest inductionHypothesis =>
      have tail := inductionHypothesis fun next member =>
        agree next (List.mem_cons_of_mem item member)
      have here := agree item List.mem_cons_self
      rw [List.findSome?_cons, List.find?_cons, ← here]
      cases found : check item with
      | some value => exact found.symm
      | none => exact tail

/-- A map reports the first item that has something wrong with it. -/
theorem mapM_eq_refuseOr
    {read : Item → Except Error Value}
    {check : Item → Option Error}
    {value : Item → Value}
    {items : List Item}
    (reads : ∀ item ∈ items, read item = refuseOr (check item) (value item)) :
    items.mapM read = refuseOr (items.findSome? check) (items.map value) := by
  induction items with
  | nil => rfl
  | cons item rest inductionHypothesis =>
      have readsRest := inductionHypothesis fun other member =>
        reads other (List.mem_cons_of_mem item member)
      rw [List.mapM_cons, reads item List.mem_cons_self, readsRest, List.findSome?_cons]
      cases check item with
      | some error => rfl
      | none =>
          cases rest.findSome? check with
          | some error => rfl
          | none => rfl

theorem mapM_eq_ok
    {read : Item → Except Error Value}
    {value : Item → Value}
    {items : List Item}
    (reads : ∀ item ∈ items, read item = .ok (value item)) :
    items.mapM read = .ok (items.map value) := by
  have run : items.mapM read = refuseOr (items.findSome? fun _ => none) (items.map value) :=
    mapM_eq_refuseOr reads
  have clear : items.findSome? (fun _ => (none : Option Error)) = none :=
    List.findSome?_eq_none_iff.mpr fun _ _ => rfl
  rw [run, clear, refuseOr_none]

end InstructionTable
