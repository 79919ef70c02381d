import Mathlib.Data.List.DropRight
import TrackerQuery.Proofs.Builder.Run

/-!
# TrackerQuery.Proofs.Builder.History

What a builder holds after a run, read off **the calls that were addressed to it**.

For each option on its own, the last effective call of the setter decides, among the
calls since the last reset; without one the option has its default
(`Builder.after_new`). Which other calls there were, and in which order, has no
influence. So calls without effect can be left out of a run, neighbouring calls for
different options can be exchanged, and the steps of different builders can be
interleaved in any way.

Main statement: `Session.lastEffective_decides`.
-/

namespace TrackerQuery

/-! ### The last effective call -/

/-- The setting of the last effective call for an option. -/
def Call.lastEffect? [Limits] (calls : List Call) (k : QueryOption) : Option Setting :=
  ((calls.filter fun c => c.option = k).filterMap effect?).getLast?

namespace Options

/-- The options with a setting for some of them, and defaults for the others. -/
def ofLast (last? : QueryOption → Option Setting) : Options where
  filter :=
    match last? .filter with
    | some (.filter compiled) => some compiled
    | _ => none
  includes :=
    match last? .includes with
    | some (.includes paths) => paths
    | _ => []
  take :=
    match last? .take with
    | some (.take limit) => some limit
    | _ => none
  sortKeys :=
    match last? .sortKeys with
    | some (.sortKeys fields) => fields
    | _ => []
  format :=
    match last? .format with
    | some (.format name) => name
    | _ => some defaultFormat

theorem ofLast_update (last? : QueryOption → Option Setting) (s : Setting) :
    ofLast (fun k => if s.option = k then some s else last? k) = (ofLast last?).set s := by
  cases s <;> rfl

end Options

namespace Call

variable [Limits]

theorem lastEffect?_concat_of_none {c : Call} (h : c.effect? = none) (calls : List Call) :
    lastEffect? (calls ++ [c]) = lastEffect? calls := by
  funext k
  unfold lastEffect?
  rw [List.filter_append, List.filterMap_append]
  by_cases hk : c.option = k
  · simp [hk, h]
  · simp [hk]

/-- An effective call is the last one for its own option, and no call for any other. -/
theorem lastEffect?_concat_of_some {c : Call} {s : Setting} (h : c.effect? = some s)
    (calls : List Call) :
    lastEffect? (calls ++ [c]) = fun k => if s.option = k then some s else lastEffect? calls k := by
  have hoption : s.option = c.option := (isCanonical_of_effect? h).1
  funext k
  unfold lastEffect?
  rw [List.filter_append, List.filterMap_append, hoption]
  by_cases hk : c.option = k
  · simp [hk, h]
  · simp [hk]

end Call

/-! ### What a builder holds -/

/-- The call of a setter that a step is, if it is one. -/
def Step.call? : Step → Option Call
  | call c => some c
  | _ => none

/-- Whether a step sets options back. -/
def Step.isReset : Step → Bool
  | reset => true
  | _ => false

/-- The calls behind the last reset. -/
def callsSinceReset (steps : List Step) : List Call :=
  (steps.rtakeWhile fun st => !st.isReset).filterMap Step.call?

theorem callsSinceReset_concat_reset (steps : List Step) :
    callsSinceReset (steps ++ [.reset]) = [] := by
  unfold callsSinceReset
  rw [List.rtakeWhile_concat_neg _ _ _ (by decide)]
  rfl

theorem callsSinceReset_concat {st : Step} (h : st.isReset = false) (steps : List Step) :
    callsSinceReset (steps ++ [st]) = callsSinceReset steps ++ st.call?.toList := by
  unfold callsSinceReset
  rw [List.rtakeWhile_concat_pos _ _ _ (by simpa using h), List.filterMap_append]
  cases st <;> rfl

namespace Builder

variable [Limits]

/-- What the calls of setters make of a builder with default options. -/
def ofCalls (auth : Auth) (calls : List Call) : Builder :=
  ⟨auth, Options.ofLast (Call.lastEffect? calls)⟩

theorem next_ofCalls (auth : Auth) (calls : List Call) (c : Call) :
    (ofCalls auth calls).next (.call c) = ofCalls auth (calls ++ [c]) := by
  show (ofCalls auth calls).apply c.effect? = _
  unfold ofCalls
  cases h : c.effect? with
  | none =>
      rw [Call.lastEffect?_concat_of_none h]
      rfl
  | some s =>
      rw [Call.lastEffect?_concat_of_some h, Options.ofLast_update]
      rfl

/-- What a new builder becomes depends on the calls since the last reset only. -/
theorem after_new (auth : Auth) (steps : List Step) :
    (new auth).after steps = ofCalls auth (callsSinceReset steps) := by
  -- the last step decides whether the history goes on or begins again
  induction steps using List.reverseRecOn with
  | nil => rfl
  | append_singleton steps st ih =>
      rw [after_append, ih]
      cases st with
      | call c =>
          rw [callsSinceReset_concat rfl]
          exact next_ofCalls auth _ c
      | reset =>
          rw [callsSinceReset_concat_reset]
          rfl
      | _ =>
          rw [callsSinceReset_concat rfl]
          exact congrArg (ofCalls auth) (List.append_nil _).symm

/-- Calls for different options can be made in either order. -/
theorem next_comm {c c' : Call} (h : c.option ≠ c'.option) (b : Builder) :
    (b.next (.call c)).next (.call c') = (b.next (.call c')).next (.call c) := by
  show (b.apply c.effect?).apply c'.effect? = (b.apply c'.effect?).apply c.effect?
  cases hc : c.effect? with
  | none => rfl
  | some s =>
      cases hc' : c'.effect? with
      | none => rfl
      | some s' =>
          have hs : s.option ≠ s'.option := by
            rwa [(Call.isCanonical_of_effect? hc).1, (Call.isCanonical_of_effect? hc').1]
          exact congrArg (Builder.mk b.auth) (Options.set_comm hs b.options)

end Builder

/-! ### Steps that change nothing -/

/-- Whether a step is a call that fails or has no effect. -/
def Step.isIdle [Limits] : Step → Bool
  | call c => c.effect?.isNone
  | _ => false

namespace Session

section Limits

variable [Limits]

/-- Holds of two runs that lead to the same session with the same answers. -/
def SameRun (s : Session) (xs ys : List Step) : Prop :=
  s.after xs = s.after ys ∧ s.answers xs = s.answers ys

variable {auth : Auth} {s : Session}

theorem next_of_isIdle {st : Step} (h : st.isIdle = true) (s : Session) : s.next st = s := by
  cases st with
  | call c =>
      have hc : c.effect? = none := Option.isNone_iff_eq_none.mp h
      rw [next_call, Builder.next, hc]
      exact s.put_builder
  | _ => cases h

theorem answer?_of_isIdle {st : Step} (h : st.isIdle = true) (b : Builder) :
    b.answer? st = none := by
  cases st with
  | call c => rfl
  | _ => cases h

theorem sameRun_filter_idle (s : Session) (steps : List Step) :
    s.SameRun (steps.filter fun st => !st.isIdle) steps := by
  induction steps generalizing s with
  | nil => exact ⟨rfl, rfl⟩
  | cons st rest ih =>
      obtain ⟨hafter, hanswers⟩ := ih (s.next st)
      unfold SameRun
      rw [List.filter_cons, after_cons, answers_cons, ← hafter, ← hanswers]
      cases h : st.isIdle with
      | true =>
          rw [next_of_isIdle h, answer?_of_isIdle h]
          exact ⟨rfl, rfl⟩
      | false => exact ⟨after_cons s st _, answers_cons s st _⟩

/-! ### Steps that can be exchanged -/

theorem next_next_call (hs : s.IsFamily auth) (c c' : Call) :
    (s.next (.call c)).next (.call c') =
      s.put ((s.builder.next (.call c)).next (.call c')) := by
  rw [next_call s c, next_call, hs.builder_put, put_put]

theorem sameRun_swap_calls (hs : s.IsFamily auth) {c c' : Call} (h : c.option ≠ c'.option)
    (pre post : List Step) :
    s.SameRun (pre ++ .call c :: .call c' :: post) (pre ++ .call c' :: .call c :: post) := by
  have hfamily : (s.after pre).IsFamily auth := hs.after pre
  have hcomm : ((s.after pre).next (.call c)).next (.call c') =
      ((s.after pre).next (.call c')).next (.call c) := by
    rw [next_next_call hfamily, next_next_call hfamily, Builder.next_comm h]
  constructor
  · simp only [after_append, after_cons, hcomm]
  · -- a call is no question, so that only the answers behind both calls count
    simp only [answers_append, answers_cons, hcomm]
    rfl

/-- Holds of two runs that lead to the same builders with the same answers of each. -/
def SameAtPlaces (s : Session) (xs ys : List Step) : Prop :=
  (s.after xs).builders = (s.after ys).builders ∧
    ∀ i, atPlace i (s.answers xs) = atPlace i (s.answers ys)

/-- The builders that steps with places lead to: one to start with, and one for each clone. -/
def familyOf (auth : Auth) (steps : List (Nat × Step)) : List Builder :=
  (List.range (1 + steps.countP fun p => p.2.isClone)).map fun i =>
    Builder.ofCalls auth (callsSinceReset (atPlace i steps))

theorem builders_after_start (auth : Auth) (steps : List Step) :
    ((start auth).after steps).builders = familyOf auth ((start auth).addressed steps) := by
  have hlen : ((start auth).after steps).builders.length =
      (familyOf auth ((start auth).addressed steps)).length := by
    rw [length_builders_after, familyOf, List.length_map, List.length_range]
    rfl
  refine List.ext_getElem hlen fun i hi _ => ?_
  have hbuilder := eq_after_of_getElem? (List.getElem?_eq_getElem hi)
  rw [hbuilder, Builder.after_new]
  simp only [familyOf, List.getElem_map, List.getElem_range]

theorem familyOf_congr (auth : Auth) {ps qs : List (Nat × Step)}
    (h : ∀ i, atPlace i ps = atPlace i qs) : familyOf auth ps = familyOf auth qs := by
  have hcount := (perm_of_atPlace h).countP_eq fun p => p.2.isClone
  unfold familyOf
  simp only [hcount, h]

/-- **The last effective call for each option decides**, for every builder on its own. So calls
that fail or have no effect can be left out, and neighbouring calls for different options can
be exchanged. Steps that are addressed to different builders can be exchanged too
(`atPlace_swap`): nothing matters but the steps that each builder is addressed with, and their
order. -/
theorem lastEffective_decides (auth : Auth) :
    (∀ steps, ((start auth).after steps).builders =
      familyOf auth ((start auth).addressed steps)) ∧
    (∀ steps, (start auth).SameRun (steps.filter fun st => !st.isIdle) steps) ∧
    (∀ pre post c c', c.option ≠ c'.option → (start auth).SameRun
      (pre ++ .call c :: .call c' :: post) (pre ++ .call c' :: .call c :: post)) ∧
    (∀ steps steps', (∀ i, atPlace i ((start auth).addressed steps) =
      atPlace i ((start auth).addressed steps')) → (start auth).SameAtPlaces steps steps') := by
  refine ⟨builders_after_start auth, sameRun_filter_idle (start auth), ?_, ?_⟩
  · intro pre post c c' h
    exact sameRun_swap_calls (isFamily_start auth) h pre post
  · intro steps steps' h
    constructor
    · rw [builders_after_start, builders_after_start, familyOf_congr auth h]
    · intro i
      rw [atPlace_answers (isFamily_start auth), atPlace_answers (isFamily_start auth), h i]

end Limits

/-- A page size for a clone and a format for the builder it was cloned from, in either order. -/
theorem lastEffective_decides_clone :
    let auth : Auth := ⟨.apiKey, "a&b".toText⟩
    let size : Call := .take (.int 5)
    let format : Call := .format (some "xml".toText)
    let steps : List Step := [.clone, .call size, .use 0, .call format, .params]
    let steps' : List Step := [.clone, .use 0, .call format, .use 1, .call size, .use 0, .params]
    size.option ≠ format.option ∧
      (start auth).SameRun [.call size, .call format, .query] [.call format, .call size, .query] ∧
      (∀ i, atPlace i ((start auth).addressed steps) =
        atPlace i ((start auth).addressed steps')) ∧
      (start auth).SameAtPlaces steps steps' := by
  intro auth size format steps steps'
  have hoption : size.option ≠ format.option := by decide
  have hsteps : ∀ i, atPlace i ((start auth).addressed steps) =
      atPlace i ((start auth).addressed steps') := by
    intro i
    exact atPlace_swap i (p := (1, Step.call size)) (q := (0, Step.call format)) (by decide)
      [(0, .clone)] [(0, .params)]
  obtain ⟨-, -, hcalls, hplaces⟩ := lastEffective_decides auth
  exact ⟨hoption, hcalls [] [.query] size format hoption, hsteps,
    hplaces steps steps' hsteps⟩

end Session

end TrackerQuery
