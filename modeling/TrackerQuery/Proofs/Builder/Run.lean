import TrackerQuery.Builder.Session
import TrackerQuery.Proofs.Builder.Setting

/-!
# TrackerQuery.Proofs.Builder.Run

**Runs of a session**, seen from the places of its family.

A step acts on the current builder only. `Session.addressed` lists the steps of a run
with the places they act on; a step that only chooses the builder to go on with acts on
none. What is at a place after a run, and what was answered there, is what one builder
makes of the steps with that place (`builderAt_after`, `atPlace_answers`): the builders
of a family have nothing in common but the sender.

A place that has no builder yet counts as one with default options. A clone has default
options too, so that the step that creates a builder changes nothing at its place.
-/

namespace TrackerQuery

/-! ### One builder -/

namespace Builder

/-- The builder behind a step that acts on it. -/
def next [Limits] (b : Builder) : Step → Builder
  | .call c => b.apply c.effect?
  | .reset => b.reset
  | _ => b

/-- The builder behind steps in order. -/
def after [Limits] (b : Builder) (steps : List Step) : Builder :=
  steps.foldl next b

/-- What a builder answers to a step that asks for something, or why it fails to. -/
def answer? [Limits] (b : Builder) : Step → Option (Except Fault Answer)
  | .params => some (b.params.map .params)
  | .query => some (b.queryString.map .query)
  | _ => none

/-- The answers of a builder to steps in order. -/
def answers [Limits] (b : Builder) : List Step → List (Except Fault Answer)
  | [] => []
  | st :: rest => (b.answer? st).toList ++ (b.next st).answers rest

variable [Limits]

theorem after_cons (b : Builder) (st : Step) (rest : List Step) :
    b.after (st :: rest) = (b.next st).after rest := rfl

theorem after_append (b : Builder) (xs ys : List Step) :
    b.after (xs ++ ys) = (b.after xs).after ys :=
  List.foldl_append

theorem auth_next (b : Builder) (st : Step) : (b.next st).auth = b.auth := by
  cases st with
  | call c =>
      show (b.apply c.effect?).auth = b.auth
      cases c.effect? <;> rfl
  | _ => rfl

end Builder

/-! ### Places -/

/-- What is listed with a place. -/
def atPlace {α : Type} (i : Nat) : List (Nat × α) → List α
  | [] => []
  | (j, a) :: rest => if j = i then a :: atPlace i rest else atPlace i rest

section Places

variable {α : Type}

theorem atPlace_toList (i j : Nat) (o : Option α) :
    atPlace i (o.map (j, ·)).toList = if j = i then o.toList else [] := by
  cases o with
  | none => exact (ite_self _).symm
  | some a => rfl

theorem atPlace_append (i : Nat) (xs ys : List (Nat × α)) :
    atPlace i (xs ++ ys) = atPlace i xs ++ atPlace i ys := by
  induction xs with
  | nil => rfl
  | cons p xs ih =>
      rw [List.cons_append, atPlace, atPlace, ih]
      split <;> rfl

/-- Two neighbours with different places can be exchanged. -/
theorem atPlace_swap (i : Nat) {p q : Nat × α} (h : p.1 ≠ q.1) (l r : List (Nat × α)) :
    atPlace i (l ++ p :: q :: r) = atPlace i (l ++ q :: p :: r) := by
  rw [atPlace_append, atPlace_append]
  congr 1
  simp only [atPlace]
  by_cases hp : p.1 = i
  · rw [if_pos hp, if_pos hp, if_neg (fun hq => h (hp.trans hq.symm)),
      if_neg (fun hq => h (hp.trans hq.symm))]
  · rw [if_neg hp, if_neg hp]

theorem exists_of_atPlace_eq_cons {i : Nat} {a : α} {as : List α} {xs : List (Nat × α)}
    (h : atPlace i xs = a :: as) : ∃ l r, xs = l ++ (i, a) :: r ∧ atPlace i l = [] := by
  induction xs with
  | nil => cases h
  | cons p xs ih =>
      obtain ⟨j, b⟩ := p
      rw [atPlace] at h
      by_cases hj : j = i
      · rw [if_pos hj] at h
        cases h
        exact ⟨[], xs, by rw [hj]; rfl, rfl⟩
      · rw [if_neg hj] at h
        obtain ⟨l, r, rfl, hl⟩ := ih h
        exact ⟨(j, b) :: l, r, rfl, by rw [atPlace, if_neg hj, hl]⟩

/-- What is listed with each place determines the list up to the order. -/
theorem perm_of_atPlace {xs ys : List (Nat × α)} (h : ∀ i, atPlace i xs = atPlace i ys) :
    xs.Perm ys := by
  induction xs generalizing ys with
  | nil =>
      cases ys with
      | nil => exact List.Perm.refl _
      | cons p ys =>
          have hp := h p.1
          rw [atPlace, atPlace, if_pos rfl] at hp
          cases hp
  | cons p xs ih =>
      have hp : atPlace p.1 ys = p.2 :: atPlace p.1 xs := by
        rw [← h, atPlace, if_pos rfl]
      obtain ⟨l, r, rfl, hl⟩ := exists_of_atPlace_eq_cons hp
      -- without the first step with the place of `p`, the lists still agree at each place
      have hrest : ∀ i, atPlace i xs = atPlace i (l ++ r) := by
        intro i
        have hi := h i
        rw [atPlace_append, atPlace, atPlace] at hi
        rw [atPlace_append]
        by_cases hpi : p.1 = i
        · subst hpi
          rw [if_pos rfl, if_pos rfl, hl] at hi
          rw [hl]
          exact List.tail_eq_of_cons_eq hi
        · rwa [if_neg hpi, if_neg hpi] at hi
      exact ((ih hrest).cons p).trans List.perm_middle.symm

end Places

/-! ### Steps -/

/-- Whether a step only chooses the builder to go on with. -/
def Step.isUse : Step → Bool
  | use _ => true
  | _ => false

/-- Whether a step adds a builder to the family. -/
def Step.isClone : Step → Bool
  | clone => true
  | _ => false

/-- Whether a step asks for something. -/
def Step.isQuestion : Step → Bool
  | params | query => true
  | _ => false

namespace Session

/-! ### One step of a session -/

/-- The session behind a step. -/
def next [Limits] (s : Session) (st : Step) : Session :=
  (s.outcome (s.step st)).session

/-- What a step that asks for something was answered, and at which place. -/
def Outcome.answered? (o : Outcome) (st : Step) : Option (Nat × Except Fault Answer) :=
  if st.isQuestion then some (o.session.current, o.answer) else none

theorem put_builder (s : Session) : s.put s.builder = s := by
  unfold put builder
  by_cases h : s.current < s.builders.length
  · rw [List.getElem?_eq_getElem h, Option.getD_some, List.set_getElem_self]
  · rw [List.set_eq_of_length_le (by omega)]

theorem put_put (s : Session) (b b' : Builder) : (s.put b).put b' = s.put b' := by
  unfold put
  rw [List.set_set]

/-- A question changes nothing, whether or not it can be answered. -/
theorem outcome_question {α : Type} (s : Session) (e : Except Fault α) (answer : α → Answer) :
    s.outcome (do let a ← Traced.ofExcept e; return (s, answer a)) = ⟨s, e.map answer⟩ := by
  cases e <;> rfl

section Limits

variable [Limits]

theorem outcome_step_call (s : Session) (c : Call) :
    (s.step (.call c)).outcome =
      c.setting.outcome.map fun e => (s.put (s.builder.apply e), .done) := by
  rw [step, Builder.call, Traced.outcome_bind, Traced.outcome_bind]
  cases c.setting.outcome <;> rfl

/-- A call replaces the current builder; if it fails, nothing changes. -/
theorem next_call (s : Session) (c : Call) :
    s.next (.call c) = s.put (s.builder.next (.call c)) := by
  rw [next, outcome, outcome_step_call, Builder.next, Call.effect?]
  cases c.setting.outcome with
  | ok e => rfl
  | error f => exact s.put_builder.symm

theorem next_of_isQuestion {st : Step} (h : st.isQuestion = true) (s : Session) :
    s.next st = s := by
  cases st with
  | params => exact congrArg Outcome.session (s.outcome_question s.builder.params .params)
  | query => exact congrArg Outcome.session (s.outcome_question s.builder.queryString .query)
  | _ => cases h

theorem builders_next_use (s : Session) (i : Nat) : (s.next (.use i)).builders = s.builders := by
  show (if i < s.builders.length then { s with current := i } else s).builders = s.builders
  split <;> rfl

theorem answered?_step (s : Session) (st : Step) :
    (s.outcome (s.step st)).answered? st = (s.builder.answer? st).map (s.current, ·) := by
  cases st with
  | params =>
      exact congrArg (Outcome.answered? · .params) (s.outcome_question s.builder.params .params)
  | query =>
      exact congrArg (Outcome.answered? · .query) (s.outcome_question s.builder.queryString .query)
  | _ => rfl

theorem length_builders_next (s : Session) (st : Step) :
    (s.next st).builders.length = s.builders.length + if st.isClone then 1 else 0 := by
  cases st with
  | call c =>
      rw [next_call]
      exact List.length_set
  | reset => exact List.length_set
  | clone => exact List.length_append
  | use i =>
      rw [builders_next_use]
      rfl
  | params | query =>
      rw [next_of_isQuestion rfl]
      rfl

end Limits

/-! ### Runs of a session -/

/-- The session behind a run. -/
def after [Limits] (s : Session) (steps : List Step) : Session :=
  ((s.run steps).2.getLast?.map Outcome.session).getD s

/-- The answers of a run with the places they were given at. -/
def answers [Limits] (s : Session) (steps : List Step) : List (Nat × Except Fault Answer) :=
  (steps.zip (s.run steps).2).filterMap fun p => p.2.answered? p.1

/-- The steps of a run with the places of the builders they act on. -/
def addressed [Limits] (s : Session) : List Step → List (Nat × Step)
  | [] => []
  | st :: rest =>
    if st.isUse then (s.next st).addressed rest
    else (s.current, st) :: (s.next st).addressed rest

section Limits

variable [Limits]

theorem run_cons (s : Session) (st : Step) (rest : List Step) :
    (s.run (st :: rest)).2 = s.outcome (s.step st) :: ((s.next st).run rest).2 := rfl

theorem after_cons (s : Session) (st : Step) (rest : List Step) :
    s.after (st :: rest) = (s.next st).after rest := by
  rw [after, after, run_cons, List.getLast?_cons]
  cases ((s.next st).run rest).2.getLast? <;> rfl

theorem after_append (s : Session) (xs ys : List Step) :
    s.after (xs ++ ys) = (s.after xs).after ys := by
  induction xs generalizing s with
  | nil => rfl
  | cons st xs ih => rw [List.cons_append, after_cons, after_cons, ih]

theorem answers_cons (s : Session) (st : Step) (rest : List Step) :
    s.answers (st :: rest) =
      ((s.builder.answer? st).map (s.current, ·)).toList ++ (s.next st).answers rest := by
  rw [answers, answers, run_cons, List.zip_cons_cons, List.filterMap_cons, answered?_step]
  cases s.builder.answer? st <;> rfl

theorem answers_append (s : Session) (xs ys : List Step) :
    s.answers (xs ++ ys) = s.answers xs ++ (s.after xs).answers ys := by
  induction xs generalizing s with
  | nil => rfl
  | cons st xs ih =>
      rw [List.cons_append, answers_cons, answers_cons, after_cons, ih, List.append_assoc]

theorem length_builders_after (s : Session) (steps : List Step) :
    (s.after steps).builders.length =
      s.builders.length + (s.addressed steps).countP fun p => p.2.isClone := by
  induction steps generalizing s with
  | nil => rfl
  | cons st rest ih =>
      rw [after_cons, ih, length_builders_next, addressed]
      by_cases huse : st.isUse
      · cases st <;> cases huse
        rfl
      · rw [if_neg huse, List.countP_cons, Nat.add_assoc, Nat.add_comm (ite _ _ _)]

end Limits

/-! ### Families -/

/-- Holds of a session with a current builder and a common sender of all builders. -/
structure IsFamily (s : Session) (auth : Auth) : Prop where
  current_lt : s.current < s.builders.length
  auth_eq : ∀ b ∈ s.builders, b.auth = auth

variable {auth : Auth} {s : Session}

theorem isFamily_start (auth : Auth) : (start auth).IsFamily auth where
  current_lt := Nat.one_pos
  auth_eq := by simp [start, Builder.new]

theorem IsFamily.builder_mem (hs : s.IsFamily auth) : s.builder ∈ s.builders := by
  rw [builder, List.getElem?_eq_getElem hs.current_lt]
  exact List.getElem_mem hs.current_lt

theorem IsFamily.auth_builder (hs : s.IsFamily auth) : s.builder.auth = auth :=
  hs.auth_eq s.builder hs.builder_mem

theorem IsFamily.clone_eq (hs : s.IsFamily auth) : s.builder.clone = Builder.new auth := by
  rw [Builder.clone, hs.auth_builder]

theorem IsFamily.builder_put (hs : s.IsFamily auth) (b : Builder) : (s.put b).builder = b := by
  show (s.builders.set s.current b)[s.current]?.getD default = b
  rw [List.getElem?_set_self hs.current_lt]
  rfl

theorem IsFamily.put (hs : s.IsFamily auth) {b : Builder} (hb : b.auth = auth) :
    (s.put b).IsFamily auth where
  current_lt := by
    show s.current < (s.builders.set s.current b).length
    rw [List.length_set]
    exact hs.current_lt
  auth_eq := by
    intro b' hb'
    obtain hb' | rfl := List.mem_or_eq_of_mem_set hb'
    · exact hs.auth_eq b' hb'
    · exact hb

theorem IsFamily.next [Limits] (hs : s.IsFamily auth) (st : Step) : (s.next st).IsFamily auth := by
  cases st with
  | call c =>
      rw [next_call]
      exact hs.put ((Builder.auth_next s.builder _).trans hs.auth_builder)
  | reset => exact hs.put hs.auth_builder
  | clone =>
      refine ⟨?_, ?_⟩
      · show s.builders.length < (s.builders ++ [s.builder.clone]).length
        rw [List.length_append]
        exact Nat.lt_succ_self _
      · intro b hb
        obtain hb | hb := List.mem_append.mp hb
        · exact hs.auth_eq b hb
        · rw [List.mem_singleton.mp hb, hs.clone_eq]
          rfl
  | use i =>
      show (if i < s.builders.length then { s with current := i } else s).IsFamily auth
      split
      · next hi => exact ⟨hi, hs.auth_eq⟩
      · exact hs
  | params | query =>
      rw [next_of_isQuestion rfl]
      exact hs

theorem IsFamily.after [Limits] (hs : s.IsFamily auth) (steps : List Step) :
    (s.after steps).IsFamily auth := by
  induction steps generalizing s with
  | nil => exact hs
  | cons st rest ih =>
      rw [after_cons]
      exact ih (hs.next st)

/-! ### One place of a family -/

/-- The builder at a place, or one with default options where none is yet. -/
def builderAt (s : Session) (auth : Auth) (i : Nat) : Builder :=
  s.builders[i]?.getD (Builder.new auth)

theorem builderAt_start (auth : Auth) (i : Nat) :
    (start auth).builderAt auth i = Builder.new auth := by
  cases i <;> rfl

theorem IsFamily.builderAt_current (hs : s.IsFamily auth) :
    s.builderAt auth s.current = s.builder := by
  rw [builderAt, builder, List.getElem?_eq_getElem hs.current_lt]
  rfl

theorem builderAt_put (hs : s.IsFamily auth) (b : Builder) (i : Nat) :
    (s.put b).builderAt auth i = if s.current = i then b else s.builderAt auth i := by
  rw [builderAt, put, List.getElem?_set, if_pos hs.current_lt]
  split <;> rfl

section Limits

variable [Limits]

theorem builderAt_put_next (hs : s.IsFamily auth) (st : Step) (i : Nat) :
    (s.put (s.builder.next st)).builderAt auth i =
      if s.current = i then (s.builderAt auth i).next st else s.builderAt auth i := by
  rw [builderAt_put hs]
  split
  · next hi => rw [← hi, hs.builderAt_current]
  · rfl

theorem builderAt_next_use (auth : Auth) (s : Session) (j i : Nat) :
    (s.next (.use j)).builderAt auth i = s.builderAt auth i := by
  rw [builderAt, builders_next_use]
  rfl

/-- The builder that a clone adds is what its place counted as before. -/
theorem builderAt_next_clone (hs : s.IsFamily auth) (i : Nat) :
    (s.next .clone).builderAt auth i = s.builderAt auth i := by
  show (s.builders ++ [s.builder.clone])[i]?.getD (Builder.new auth) =
    s.builders[i]?.getD (Builder.new auth)
  rw [hs.clone_eq]
  by_cases hi : i < s.builders.length
  · rw [List.getElem?_append_left hi]
  · have hle : s.builders.length ≤ i := by omega
    rw [List.getElem?_append_right hle, List.getElem?_eq_none hle]
    cases i - s.builders.length <;> rfl

/-- A step acts on the builder at the current place and on no other. -/
theorem builderAt_next (hs : s.IsFamily auth) (st : Step) (i : Nat) :
    (s.next st).builderAt auth i =
      if s.current = i then (s.builderAt auth i).next st else s.builderAt auth i := by
  cases st with
  | call c => rw [next_call, builderAt_put_next hs]
  | reset => exact builderAt_put_next hs .reset i
  | clone =>
      rw [builderAt_next_clone hs]
      exact (ite_self _).symm
  | use j =>
      rw [builderAt_next_use]
      exact (ite_self _).symm
  -- a question leaves every builder as it is
  | params | query =>
      rw [next_of_isQuestion rfl]
      exact (ite_self _).symm

/-- What is at a place after a run is what a builder makes of the steps with that place. -/
theorem builderAt_after (hs : s.IsFamily auth) (steps : List Step) (i : Nat) :
    (s.after steps).builderAt auth i =
      (s.builderAt auth i).after (atPlace i (s.addressed steps)) := by
  induction steps generalizing s with
  | nil => rfl
  | cons st rest ih =>
      rw [after_cons, ih (hs.next st), addressed]
      by_cases huse : st.isUse
      · cases st <;> cases huse
        rw [builderAt_next_use]
        rfl
      · rw [if_neg huse, atPlace, builderAt_next hs]
        split <;> rfl

/-- What is answered at a place in a run is what a builder answers to the steps with that
place. -/
theorem atPlace_answers (hs : s.IsFamily auth) (steps : List Step) (i : Nat) :
    atPlace i (s.answers steps) =
      (s.builderAt auth i).answers (atPlace i (s.addressed steps)) := by
  induction steps generalizing s with
  | nil => rfl
  | cons st rest ih =>
      rw [answers_cons, atPlace_append, atPlace_toList, ih (hs.next st), addressed]
      by_cases huse : st.isUse
      · cases st <;> cases huse
        rw [builderAt_next_use]
        exact congrArg (· ++ _) (ite_self _)
      · rw [if_neg huse, atPlace, builderAt_next hs]
        split
        · next hi =>
            rw [← hi, hs.builderAt_current]
            rfl
        · rfl

/-- Each builder of a family after a run is what a new one makes of the steps with its place. -/
theorem eq_after_of_getElem? {steps : List Step} {i : Nat} {b : Builder}
    (h : ((start auth).after steps).builders[i]? = some b) :
    b = (Builder.new auth).after (atPlace i ((start auth).addressed steps)) := by
  have hplace := builderAt_after (isFamily_start auth) steps i
  rwa [builderAt, h, builderAt_start] at hplace

end Limits

end Session

end TrackerQuery
