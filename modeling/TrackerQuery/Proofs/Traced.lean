import TrackerQuery.Traced

/-!
# TrackerQuery.Proofs.Traced

How computations that log and may fail **end**, step by step, and what two of them have
in common.

Two computations agree if they leave the same records and either fail for the same
reason or both succeed, with related results (`Agree`). Sequences of agreeing steps
agree, so that it is enough to look at each step where the two differ.

Of the rejections some call for a warning (`warningOf?`). Steps that leave the warning that
their failure calls for, and no other, make sequences that do (`WarnsByOutcome.bind`), so that
the warnings of a computation can be read off its outcome. That the steps which reject do
leave it is shown for each of them.
-/

namespace TrackerQuery.Traced

variable {α β : Type}

theorem outcome_bind (x : Traced α) (f : α → Traced β) :
    (x >>= f).outcome = x.outcome >>= fun a => (f a).outcome := by
  change (andThen x f).outcome = _
  rw [andThen]
  cases x.outcome <;> rfl

/-- A sequence of two computations succeeds if both do. -/
theorem outcome_bind_eq_ok {x : Traced α} {f : α → Traced β} {b : β} :
    (x >>= f).outcome = .ok b ↔ ∃ a, x.outcome = .ok a ∧ (f a).outcome = .ok b := by
  rw [outcome_bind]
  cases x.outcome <;> simp [bind, Except.bind]

/-- A sequence of two computations fails as the first one does, or else as the second one. -/
theorem outcome_bind_eq_error {x : Traced α} {f : α → Traced β} {e : Fault} :
    (x >>= f).outcome = .error e ↔
      x.outcome = .error e ∨ ∃ a, x.outcome = .ok a ∧ (f a).outcome = .error e := by
  rw [outcome_bind]
  cases x.outcome <;> simp [bind, Except.bind]

@[simp] theorem outcome_ofExcept (e : Except Fault α) : (ofExcept e).outcome = e := by
  cases e <;> rfl

@[simp] theorem outcome_ofChecked_eq_ok {e : Except Rejection α} {a : α} :
    (ofChecked e).outcome = .ok a ↔ e = .ok a := by
  cases e <;> simp [ofChecked, ok, fail]

@[simp] theorem mapError_ok {ε ε' : Type} (f : ε → ε') (a : α) :
    Except.mapError f (.ok a) = .ok a := rfl

@[simp] theorem mapError_error {ε ε' : Type} (f : ε → ε') (x : ε) :
    Except.mapError f (.error x : Except ε α) = .error (f x) := rfl

theorem mapError_eq_ok {ε ε' : Type} {e : Except ε α} {f : ε → ε'} {a : α} :
    e.mapError f = .ok a ↔ e = .ok a := by
  cases e <;> simp

theorem outcome_ofChecked (e : Except Rejection α) :
    (ofChecked e).outcome = e.mapError .rejected := by
  cases e <;> rfl

/-- A sequence can be grouped in any way: the records are put one behind the other, and the first
failure skips the rest. -/
instance : LawfulMonad Traced :=
  LawfulMonad.mk' Traced
    (by
      rintro α ⟨records, outcome⟩
      cases outcome with
      | error f => rfl
      | ok a => exact congrArg (Traced.mk · (.ok a)) (List.append_nil records))
    (fun a f => rfl)
    (by
      rintro α β γ ⟨records, outcome⟩ f g
      cases outcome with
      | error e => rfl
      | ok a =>
          change andThen (andThen _ f) g = andThen _ fun a => andThen (f a) g
          simp only [andThen]
          cases (f a).outcome with
          | error e => rfl
          | ok b => simp only [List.append_assoc])

/-! ### Two computations -/

/-- Holds of two outcomes that are the same fault or related results. -/
inductive SameOutcome (R : α → β → Prop) : Except Fault α → Except Fault β → Prop where
  | ok {a : α} {b : β} (h : R a b) : SameOutcome R (.ok a) (.ok b)
  | error (f : Fault) : SameOutcome R (.error f) (.error f)

theorem SameOutcome.map {γ δ : Type} {R : α → β → Prop} {S : γ → δ → Prop} {e : Except Fault α}
    {e' : Except Fault β} (h : SameOutcome R e e') {f : α → γ} {g : β → δ}
    (hfg : ∀ a b, R a b → S (f a) (g b)) : SameOutcome S (e.map f) (e'.map g) := by
  cases h with
  | ok hab => exact .ok (hfg _ _ hab)
  | error f => exact .error f

/-- Holds of two computations with the same records and the same outcome, results being related. -/
structure Agree (R : α → β → Prop) (x : Traced α) (y : Traced β) : Prop where
  records : x.records = y.records
  outcome : SameOutcome R x.outcome y.outcome

section Agree

variable {γ δ : Type} {R : α → β → Prop} {S : γ → δ → Prop}

theorem agree_self (x : Traced α) : Agree Eq x x := by
  refine ⟨rfl, ?_⟩
  cases x.outcome with
  | ok a => exact .ok rfl
  | error f => exact .error f

theorem agree_pure {a : α} {b : β} (h : R a b) : Agree R (pure a) (pure b) :=
  ⟨rfl, .ok h⟩

theorem agree_ofExcept {e : Except Fault α} {e' : Except Fault β} (h : SameOutcome R e e') :
    Agree R (ofExcept e) (ofExcept e') := by
  cases h with
  | ok hab => exact agree_pure hab
  | error f => exact ⟨rfl, .error f⟩

theorem Agree.bind {x : Traced α} {y : Traced β} (h : Agree R x y) {f : α → Traced γ}
    {g : β → Traced δ} (hfg : ∀ a b, R a b → Agree S (f a) (g b)) :
    Agree S (x >>= f) (y >>= g) := by
  obtain ⟨records, outcome⟩ := x
  obtain ⟨records', outcome'⟩ := y
  obtain ⟨rfl, hout⟩ : records = records' ∧ SameOutcome R outcome outcome' := ⟨h.1, h.2⟩
  cases hout with
  | error f => exact ⟨rfl, .error f⟩
  | ok hab =>
      have hnext := hfg _ _ hab
      exact ⟨congrArg (records ++ ·) hnext.records, hnext.outcome⟩

/-- What follows one and the same computation has to agree for each of its results. -/
theorem Agree.after (x : Traced α) {f : α → Traced γ} {g : α → Traced δ}
    (hfg : ∀ a, Agree S (f a) (g a)) : Agree S (x >>= f) (x >>= g) :=
  (agree_self x).bind fun a _ h => h ▸ hfg a

end Agree

/-! ### Warnings -/

/-- The warnings among the records of a computation. -/
def warnings (x : Traced α) : List LogRecord :=
  x.records.filter fun r => r.level == .warning

/-- The warning that a failure calls for, if it calls for one: a rejected condition and a rejected
include entry are warned of. -/
def warningOf? : Fault → Option LogRecord
  | .rejected (.badCondition clause) =>
    some ⟨.warning, .conditions, "Rejected where condition: ".toText ++ Text.inspect clause⟩
  | .rejected (.badInclude entry) =>
    some ⟨.warning, .includes, "Rejected include entry: ".toText ++ Text.inspect entry⟩
  | _ => none

/-- Holds of the computations that leave the warning that their failure calls for, and no other. -/
def WarnsByOutcome (x : Traced α) : Prop :=
  match x.outcome with
  | .ok _ => x.warnings = []
  | .error f => x.warnings = (warningOf? f).toList

theorem warningOf?_eq_none {f : Fault} (h : ∀ r, f ≠ .rejected r) :
    warningOf? f = none := by
  cases f with
  | rejected r => exact absurd rfl (h r)
  | _ => rfl

theorem warnsByOutcome_pure (a : α) : WarnsByOutcome (pure a) :=
  rfl

theorem warnsByOutcome_fail {f : Fault} (h : warningOf? f = none) :
    WarnsByOutcome (fail f : Traced α) := by
  change [] = (warningOf? f).toList
  rw [h]
  rfl

/-- A warning in front of the failure that calls for it. -/
theorem warnsByOutcome_warned {f : Fault} {channel : Channel} {message : Text}
    (h : warningOf? f = some ⟨.warning, channel, message⟩) :
    (do log .warning channel message; fail f : Traced α).WarnsByOutcome := by
  change [LogRecord.mk .warning channel message] = (warningOf? f).toList
  rw [h]
  rfl

theorem warnsByOutcome_log {level : Level} (h : level ≠ .warning) (channel : Channel)
    (message : Text) : WarnsByOutcome (log level channel message) := by
  cases level with
  | warning => exact absurd rfl h
  | _ => rfl

/-- A computation that does not log fails only where no warning is called for. -/
theorem warnsByOutcome_ofExcept {e : Except Fault α} (h : ∀ f, e = .error f → warningOf? f = none) :
    WarnsByOutcome (ofExcept e) := by
  cases e with
  | ok a => exact warnsByOutcome_pure a
  | error f => exact warnsByOutcome_fail (h f rfl)

theorem warnsByOutcome_ofExcept_of_ne {e : Except Fault α} (h : ∀ r, e ≠ .error (.rejected r)) :
    WarnsByOutcome (ofExcept e) :=
  warnsByOutcome_ofExcept fun _ hf => warningOf?_eq_none fun r hr => h r (hr ▸ hf)

theorem warnsByOutcome_ofChecked {e : Except Rejection α}
    (h : ∀ r, e = .error r → warningOf? (.rejected r) = none) : WarnsByOutcome (ofChecked e) := by
  cases e with
  | ok a => exact warnsByOutcome_pure a
  | error r => exact warnsByOutcome_fail (h r rfl)

/-- A first step that a second one follows has not failed, so it leaves no warning. -/
theorem WarnsByOutcome.bind {x : Traced α} (h : x.WarnsByOutcome) {f : α → Traced β}
    (hf : ∀ a, (f a).WarnsByOutcome) : (x >>= f).WarnsByOutcome := by
  obtain ⟨records, outcome⟩ := x
  cases outcome with
  | error e => exact h
  | ok a =>
      have hfirst : warnings (⟨records, .ok a⟩ : Traced α) = [] := h
      have hrecords : warnings (⟨records, .ok a⟩ >>= f) = warnings (f a) := by
        have happ : warnings (⟨records, .ok a⟩ >>= f) =
            warnings (⟨records, .ok a⟩ : Traced α) ++ warnings (f a) :=
          List.filter_append records (f a).records
        rw [happ, hfirst, List.nil_append]
      have houtcome : (⟨records, .ok a⟩ >>= f).outcome = (f a).outcome := rfl
      rw [WarnsByOutcome, hrecords, houtcome]
      exact hf a

/-- A note on what a computation did is no warning. -/
theorem warnsByOutcome_note (channel : Channel) (message : Text) (a : α) :
    (do log .debug channel message; return a : Traced α).WarnsByOutcome :=
  (warnsByOutcome_log (by decide) channel message).bind fun _ => warnsByOutcome_pure a

/-! ### Rejections without a warning -/

/-- Holds of the computations that are rejected for a reason that calls for no warning. -/
def RejectsSilently (x : Traced α) : Prop :=
  ∃ r, x.outcome = .error (.rejected r) ∧ warningOf? (.rejected r) = none

theorem rejectsSilently_bind_iff {x : Traced α} {f : α → Traced β} :
    (x >>= f).RejectsSilently ↔
      x.RejectsSilently ∨ ∃ a, x.outcome = .ok a ∧ (f a).RejectsSilently := by
  simp only [RejectsSilently, outcome_bind_eq_error]
  constructor
  · intro h
    obtain ⟨r, hr | ⟨a, ha, hr⟩, hw⟩ := h
    · exact .inl ⟨r, hr, hw⟩
    · exact .inr ⟨a, ha, r, hr, hw⟩
  · intro h
    obtain ⟨r, hr, hw⟩ | ⟨a, ha, r, hr, hw⟩ := h
    · exact ⟨r, .inl hr, hw⟩
    · exact ⟨r, .inr ⟨a, ha, hr⟩, hw⟩

/-- A check that is rejected is rejected silently if its rejection calls for no warning. -/
theorem rejectsSilently_iff_of_outcome {x : Traced α} {e : Except Rejection α}
    (h : x.outcome = e.mapError .rejected) :
    x.RejectsSilently ↔ ∃ r, e = .error r ∧ warningOf? (.rejected r) = none := by
  rw [RejectsSilently, h]
  cases e <;> simp

theorem rejectsSilently_ofExcept_iff {e : Except Fault α} :
    (ofExcept e).RejectsSilently ↔
      ∃ r, e = .error (.rejected r) ∧ warningOf? (.rejected r) = none := by
  rw [RejectsSilently, outcome_ofExcept]

theorem not_rejectsSilently_ofExcept {e : Except Fault α} (h : ∀ r, e ≠ .error (.rejected r)) :
    ¬(ofExcept e).RejectsSilently := by
  intro hsilent
  obtain ⟨r, hr, -⟩ := hsilent
  rw [outcome_ofExcept] at hr
  exact h r hr

theorem not_rejectsSilently_of_ok {x : Traced α} {a : α} (h : x.outcome = .ok a) :
    ¬x.RejectsSilently := by
  intro hsilent
  obtain ⟨r, hr, -⟩ := hsilent
  rw [h] at hr
  cases hr

/-- A computation in front of steps that are not rejected silently. -/
theorem rejectsSilently_bind_iff_left {x : Traced α} {f : α → Traced β}
    (hf : ∀ a, ¬(f a).RejectsSilently) : (x >>= f).RejectsSilently ↔ x.RejectsSilently := by
  rw [rejectsSilently_bind_iff]
  refine or_iff_left ?_
  intro h
  obtain ⟨a, -, h⟩ := h
  exact hf a h

/-- Steps behind a computation that is not rejected. -/
theorem rejectsSilently_ofExcept_bind_iff {e : Except Fault α}
    (he : ∀ r, e ≠ .error (.rejected r)) {f : α → Traced β} :
    (ofExcept e >>= f).RejectsSilently ↔ ∃ a, e = .ok a ∧ (f a).RejectsSilently := by
  rw [rejectsSilently_bind_iff, outcome_ofExcept]
  exact or_iff_right (not_rejectsSilently_ofExcept he)

/-- Holds of the computations that leave one warning if they are rejected, and none if they
succeed. -/
structure WarnsOfRejection (x : Traced α) : Prop where
  rejected : ∀ r, x.outcome = .error (.rejected r) → x.warnings.length = 1
  ok : ∀ a, x.outcome = .ok a → x.warnings = []

theorem WarnsByOutcome.warnings_eq_of_rejected {x : Traced α} (h : x.WarnsByOutcome)
    {r : Rejection} (hr : x.outcome = .error (.rejected r)) :
    x.warnings = (warningOf? (.rejected r)).toList := by
  rw [WarnsByOutcome, hr] at h
  exact h

/-- There is one warning of each rejection exactly if no rejection is silent. -/
theorem WarnsByOutcome.warnsOfRejection_iff {x : Traced α} (h : x.WarnsByOutcome) :
    x.WarnsOfRejection ↔ ¬x.RejectsSilently := by
  constructor
  · intro hwarns hsilent
    obtain ⟨r, hr, hnone⟩ := hsilent
    have hone := hwarns.rejected r hr
    rw [h.warnings_eq_of_rejected hr, hnone] at hone
    exact absurd hone (by simp)
  · intro hsilent
    refine ⟨?_, ?_⟩
    · intro r hr
      rw [h.warnings_eq_of_rejected hr]
      cases hw : warningOf? (.rejected r) with
      | none => exact absurd ⟨r, hr, hw⟩ hsilent
      | some w => rfl
    · intro a ha
      rw [WarnsByOutcome, ha] at h
      exact h

end TrackerQuery.Traced
