/-
# Outcomes with a record

An `Outcome` is the result of a computation that may fail, together with the records that it
left behind.  Unlike the result, the records are kept when the computation fails: what happened
before a failure has happened.
-/
import DocSelect.Error

namespace DocSelect

/-- A result or a failure, and what was recorded on the way. -/
structure Outcome (ω α : Type) where
  /-- The records, in the order in which they were made. -/
  records : List ω
  /-- What came out. -/
  result : Except Error α

namespace Outcome

variable {ω ω' α β : Type}

/-- The outcome that leaves a single record. -/
def record (r : ω) : Outcome ω Unit :=
  ⟨[r], .ok ()⟩

/-- The outcome that leaves a list of records. -/
def recordAll (rs : List ω) : Outcome ω Unit :=
  ⟨rs, .ok ()⟩

/-- A result or a failure without any record. -/
def ofExcept (result : Except Error α) : Outcome ω α :=
  ⟨[], result⟩

/-- The failure without any record. -/
def fail (e : Error) : Outcome ω α :=
  ⟨[], .error e⟩

/-- The second computation continues with the result of the first.  If the first one fails, the
second never happens and leaves no record. -/
def andThen (o : Outcome ω α) (f : α → Outcome ω β) : Outcome ω β :=
  match o.result with
  | .ok a => ⟨o.records ++ (f a).records, (f a).result⟩
  | .error e => ⟨o.records, .error e⟩

instance : Monad (Outcome ω) where
  pure a := ⟨[], .ok a⟩
  bind := andThen

/-- The same outcome with its records read in another way. -/
def mapRecords (f : ω → ω') (o : Outcome ω α) : Outcome ω' α :=
  ⟨o.records.map f, o.result⟩

/-! ## What the operations record and return -/

@[simp] theorem records_pure (a : α) : (pure a : Outcome ω α).records = [] := rfl

@[simp] theorem result_pure (a : α) : (pure a : Outcome ω α).result = .ok a := rfl

theorem bind_of_ok {o : Outcome ω α} {a : α} (h : o.result = .ok a) (f : α → Outcome ω β) :
    o >>= f = ⟨o.records ++ (f a).records, (f a).result⟩ := by
  show andThen o f = _
  simp [andThen, h]

theorem bind_of_error {o : Outcome ω α} {e : Error} (h : o.result = .error e)
    (f : α → Outcome ω β) : o >>= f = ⟨o.records, .error e⟩ := by
  show andThen o f = _
  simp [andThen, h]

/-- The result of a chain is the chain of the results. -/
theorem result_bind (o : Outcome ω α) (f : α → Outcome ω β) :
    (o >>= f).result = o.result >>= fun a => (f a).result := by
  cases h : o.result with
  | ok a =>
    rw [bind_of_ok h]
    rfl
  | error e =>
    rw [bind_of_error h]
    rfl

/-- A function of the result leaves the records as they are. -/
theorem map_eq (f : α → β) (o : Outcome ω α) : f <$> o = ⟨o.records, o.result.map f⟩ := by
  show (o >>= fun a => pure (f a)) = _
  cases h : o.result with
  | ok a =>
    rw [bind_of_ok h, records_pure, List.append_nil]
    rfl
  | error e =>
    rw [bind_of_error h]
    rfl

/-- Of a chain of three links it does not matter which two are joined first. -/
theorem bind_assoc {γ : Type} (o : Outcome ω α) (f : α → Outcome ω β) (g : β → Outcome ω γ) :
    o >>= f >>= g = o >>= fun a => f a >>= g := by
  cases h : o.result with
  | error e =>
    have hfirst : (o >>= f).result = .error e := by rw [bind_of_error h]
    rw [bind_of_error hfirst, bind_of_error h, bind_of_error h]
  | ok a =>
    rw [bind_of_ok h, bind_of_ok h]
    cases hf : (f a).result with
    | error e =>
      have hfirst : (⟨o.records ++ (f a).records, .error e⟩ : Outcome ω β).result = .error e := rfl
      rw [bind_of_error hfirst, bind_of_error hf]
    | ok b =>
      have hfirst : (⟨o.records ++ (f a).records, .ok b⟩ : Outcome ω β).result = .ok b := rfl
      rw [bind_of_ok hfirst, bind_of_ok hf, List.append_assoc]

/-- A chain succeeds exactly when both of its links do. -/
theorem result_bind_eq_ok_iff {o : Outcome ω α} {f : α → Outcome ω β} {b : β} :
    (o >>= f).result = .ok b ↔ ∃ a, o.result = .ok a ∧ (f a).result = .ok b := by
  cases h : o.result with
  | ok a => simp [bind_of_ok h]
  | error e => simp [bind_of_error h]

end Outcome

end DocSelect
