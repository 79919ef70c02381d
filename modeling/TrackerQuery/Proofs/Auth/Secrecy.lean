import Mathlib.Data.List.Forall2
import TrackerQuery.Builder.Session
import TrackerQuery.Compilation
import TrackerQuery.Config
import TrackerQuery.Proofs.Datum
import TrackerQuery.Proofs.FormEncoding
import TrackerQuery.Proofs.Text.Blank
import TrackerQuery.Proofs.Traced
import TrackerQuery.Request.Basic

/-!
# TrackerQuery.Proofs.Auth.Secrecy

Where the **token of a sender** shows, and that it shows nowhere else.

Two senders of one scheme are compared that differ in their tokens. Whatever is done
for them in the same way leaves the same log, fails at the same places for the same
reasons, and gives parameters that differ in the value of the token alone
(`SameButToken`). The reason is that settings are found before a sender is looked at:
options are the same for both senders, and the parameters of options are the only thing
that has a sender in it.

A query string is the one place where a token can fail: in a token that is encoded no
surrogate may stand alone, and otherwise the failure names the token (`TurnsOnToken`).

Main statement: `Auth.token_only_in_parameter`.
-/

namespace TrackerQuery

open FormEncoding (Param)

/-! ### Parameters of two senders -/

/-- Holds of two results that are made of parameters in the same way. If the scheme has a token, the
parameters are the same ones with the one or the other token behind them, and else the results
are equal. -/
def SameButToken {α : Type} (scheme : AuthScheme) (t t' : Text) (make : List Param → α)
    (x x' : α) : Prop :=
  match scheme with
  | .basic => x = x'
  | .apiKey => ∃ front,
      x = make (front ++ [("access_token".toText, t)]) ∧
        x' = make (front ++ [("access_token".toText, t')])

section Senders

variable {α : Type} (scheme : AuthScheme) (t t' : Text)

theorem sameButToken_paramsWith (make : List Param → α) (o : Options) (take : Option Text) :
    SameButToken scheme t t' make (make (o.paramsWith ⟨scheme, t⟩ take))
      (make (o.paramsWith ⟨scheme, t'⟩ take)) := by
  cases scheme with
  | basic => rfl
  | apiKey => exact ⟨_, rfl, rfl⟩

/-- Whether there are parameters does not depend on the token. -/
theorem sameOutcome_params [Limits] (make : List Param → α) (o : Options) :
    Traced.SameOutcome (SameButToken scheme t t' make) ((o.params ⟨scheme, t⟩).map make)
      ((o.params ⟨scheme, t'⟩).map make) := by
  rw [Options.params, Options.params]
  cases o.takeText with
  | error f => exact .error f
  | ok take => exact .ok (sameButToken_paramsWith scheme t t' make o take)

theorem agree_params [Limits] (o : Options) :
    Traced.Agree (SameButToken scheme t t' id) (Traced.ofExcept (o.params ⟨scheme, t⟩))
      (Traced.ofExcept (o.params ⟨scheme, t'⟩)) := by
  have h := sameOutcome_params scheme t t' id o
  rw [Except.map_id, id, id] at h
  exact Traced.agree_ofExcept h

variable {scheme t t'} in
theorem SameButToken.length_eq {ps ps' : List Param} (h : SameButToken scheme t t' id ps ps') :
    ps.length = ps'.length := by
  cases scheme with
  | basic => exact congrArg List.length h
  | apiKey =>
      obtain ⟨front, rfl, rfl⟩ := h
      simp

/-! ### Query strings of two senders -/

/-- Holds of two query strings that are made of the same parameters but for the token. -/
def SameQuery (q q' : Text) : Prop :=
  SameButToken scheme t t' FormEncoding.encode (.ok q) (.ok q')

/-- Holds of two API keys if a surrogate stands alone in one of them. -/
def SomeUnencodable : Prop :=
  scheme = .apiKey ∧ ¬(t.isEncodable = true ∧ t'.isEncodable = true)

/-- Holds of an outcome that is left to a token: it names the token if that cannot be encoded, and
is a result otherwise. -/
def TurnsOnToken (t : Text) (e : Except Fault α) : Prop :=
  if t.isEncodable = true then ∃ a, e = .ok a else e = .error (.unencodable t)

theorem TurnsOnToken.map {β : Type} {t : Text} {e : Except Fault α} (h : TurnsOnToken t e)
    (f : α → β) : TurnsOnToken t (e.map f) := by
  unfold TurnsOnToken at h ⊢
  split
  · next ht =>
      rw [if_pos ht] at h
      obtain ⟨a, rfl⟩ := h
      exact ⟨f a, rfl⟩
  · next ht =>
      rw [if_neg ht] at h
      rw [h]
      rfl

/-- A text without bytes in front of the token decides, whatever the token is. -/
theorem encode_token_of_some {front : List Param} {u : Text}
    (h : FormEncoding.unencodable? front = some u) (t : Text) :
    FormEncoding.encode (front ++ [("access_token".toText, t)]) = .error (.unencodable u) := by
  refine FormEncoding.encode_eq_error ?_
  rw [FormEncoding.unencodable?_concat front (Text.isEncodable_toText _), h, Option.some_or]

/-- Otherwise the token decides. -/
theorem encode_token_of_none {front : List Param} (h : FormEncoding.unencodable? front = none)
    (t : Text) :
    TurnsOnToken t (FormEncoding.encode (front ++ [("access_token".toText, t)])) := by
  have hconcat := FormEncoding.unencodable?_concat front (v := t)
    (Text.isEncodable_toText "access_token")
  rw [h, Option.none_or] at hconcat
  unfold TurnsOnToken
  split
  · next ht => exact FormEncoding.exists_encode_eq_ok (by rw [hconcat, if_pos ht])
  · next ht => exact FormEncoding.encode_eq_error (by rw [hconcat, if_neg ht])

/-- Two encodings are alike, or left to the tokens. -/
theorem alike_encode (o : Options) (take : Option Text) :
    let e := FormEncoding.encode (o.paramsWith ⟨scheme, t⟩ take)
    let e' := FormEncoding.encode (o.paramsWith ⟨scheme, t'⟩ take)
    Traced.SameOutcome (SameQuery scheme t t') e e' ∨
      SomeUnencodable scheme t t' ∧ TurnsOnToken t e ∧ TurnsOnToken t' e' := by
  intro e e'
  cases scheme with
  | basic =>
      -- there is no token, so that the two are one and the same
      refine .inl ?_
      change Traced.SameOutcome _ e e
      cases e with
      | error f => exact .error f
      | ok q => exact .ok rfl
  | apiKey =>
      obtain ⟨front, hps, hps'⟩ := sameButToken_paramsWith .apiKey t t' id o take
      have he : e = FormEncoding.encode (front ++ [("access_token".toText, t)]) :=
        congrArg FormEncoding.encode hps
      have he' : e' = FormEncoding.encode (front ++ [("access_token".toText, t')]) :=
        congrArg FormEncoding.encode hps'
      cases hfront : FormEncoding.unencodable? front with
      | some u =>
          rw [encode_token_of_some hfront] at he he'
          rw [he, he']
          exact .inl (.error _)
      | none =>
          have hturns := he ▸ encode_token_of_none hfront t
          have hturns' := he' ▸ encode_token_of_none hfront t'
          by_cases hboth : t.isEncodable = true ∧ t'.isEncodable = true
          · rw [TurnsOnToken, if_pos hboth.1] at hturns
            rw [TurnsOnToken, if_pos hboth.2] at hturns'
            obtain ⟨q, hq⟩ := hturns
            obtain ⟨q', hq'⟩ := hturns'
            rw [hq, hq']
            exact .inl (.ok ⟨front, hq.symm.trans he, hq'.symm.trans he'⟩)
          · exact .inr ⟨⟨rfl, hboth⟩, hturns, hturns'⟩

theorem alike_query [Limits] (o : Options) :
    let e := Builder.queryString ⟨⟨scheme, t⟩, o⟩
    let e' := Builder.queryString ⟨⟨scheme, t'⟩, o⟩
    Traced.SameOutcome (SameQuery scheme t t') e e' ∨
      SomeUnencodable scheme t t' ∧ TurnsOnToken t e ∧ TurnsOnToken t' e' := by
  simp only [Builder.queryString, Builder.params, Options.params]
  cases o.takeText with
  | error f => exact .inl (.error f)
  | ok take => exact alike_encode scheme t t' o take

/-! ### Builders of two senders -/

/-- Holds of two builders with the same options, one for each sender. -/
def Builder.SameOptions (b b' : Builder) : Prop :=
  ∃ o, b = ⟨⟨scheme, t⟩, o⟩ ∧ b' = ⟨⟨scheme, t'⟩, o⟩

namespace Builder

variable {scheme t t'}

theorem sameOptions_new : SameOptions scheme t t' (new ⟨scheme, t⟩) (new ⟨scheme, t'⟩) :=
  ⟨{}, rfl, rfl⟩

/-- A setting is found without looking at the sender. -/
theorem agree_call [Limits] {b b' : Builder} (h : SameOptions scheme t t' b b') (c : Call) :
    Traced.Agree (SameOptions scheme t t') (b.call c) (b'.call c) := by
  obtain ⟨o, rfl, rfl⟩ := h
  refine Traced.Agree.after c.setting fun s => Traced.agree_pure ?_
  cases s with
  | none => exact ⟨o, rfl, rfl⟩
  | some s => exact ⟨o.set s, rfl, rfl⟩

theorem agree_callAll [Limits] {b b' : Builder} (h : SameOptions scheme t t' b b')
    (calls : List Call) :
    Traced.Agree (SameOptions scheme t t') (b.callAll calls) (b'.callAll calls) := by
  induction calls generalizing b b' with
  | nil => exact Traced.agree_pure h
  | cons c rest ih => exact (agree_call h c).bind fun _ _ hnext => ih hnext

end Builder

/-! ### Sessions of two senders -/

/-- Holds of two answers that are alike but for the token. -/
inductive Answer.Alike : Answer → Answer → Prop where
  | done : Alike .done .done
  | params {ps ps' : List Param} (h : SameButToken scheme t t' id ps ps') :
      Alike (.params ps) (.params ps')
  | query {q q' : Text} (h : SameQuery scheme t t' q q') :
      Alike (.query q) (.query q')

namespace Session

/-- The session of a sender whose builders have the given options. -/
def ofOptions (auth : Auth) (family : List Options) (current : Nat) : Session :=
  ⟨family.map (Builder.mk auth), current⟩

/-- Holds of two sessions with the same options of their builders and the same current builder, one
for each sender. -/
def SameOptions (s s' : Session) : Prop :=
  ∃ family current, current < family.length ∧ s = ofOptions ⟨scheme, t⟩ family current ∧
    s' = ofOptions ⟨scheme, t'⟩ family current

/-- Holds of what a step left in two sessions, if it is the same but for the token. Only a step that
asks for the query string can be left to a token that cannot be encoded. -/
structure Outcome.Alike (st : Step) (o o' : Outcome) : Prop where
  session : SameOptions scheme t t' o.session o'.session
  answer : Traced.SameOutcome (Answer.Alike scheme t t') o.answer o'.answer ∨
    st = .query ∧ SomeUnencodable scheme t t' ∧ TurnsOnToken t o.answer ∧ TurnsOnToken t' o'.answer

/-- Holds of what steps left in two sessions, if it is alike for each of them. -/
inductive RunsAlike : List Step → List Outcome → List Outcome → Prop where
  | nil : RunsAlike [] [] []
  | cons {st : Step} {o o' : Outcome} {steps : List Step} {os os' : List Outcome}
      (h : Outcome.Alike scheme t t' st o o') (hrest : RunsAlike steps os os') :
      RunsAlike (st :: steps) (o :: os) (o' :: os')

variable {scheme t t'}

theorem builder_ofOptions (auth : Auth) {family : List Options} {current : Nat}
    (h : current < family.length) :
    (ofOptions auth family current).builder = ⟨auth, family[current]⟩ := by
  simp [builder, ofOptions, h]

theorem put_ofOptions (auth : Auth) (family : List Options) (current : Nat) (o : Options) :
    (ofOptions auth family current).put ⟨auth, o⟩ =
      ofOptions auth (family.set current o) current := by
  simp [put, ofOptions]

/-- What a step that asks for no query string leaves for two senders. -/
theorem agree_step [Limits] {s s' : Session} (h : SameOptions scheme t t' s s') {st : Step}
    (hst : st ≠ .query) :
    Traced.Agree (fun r r' => SameOptions scheme t t' r.1 r'.1 ∧
      Answer.Alike scheme t t' r.2 r'.2) (s.step st) (s'.step st) := by
  obtain ⟨family, current, hlt, rfl, rfl⟩ := h
  have hsame : SameOptions scheme t t' (ofOptions ⟨scheme, t⟩ family current)
      (ofOptions ⟨scheme, t'⟩ family current) := ⟨family, current, hlt, rfl, rfl⟩
  have hput (o : Options) : SameOptions scheme t t'
      ((ofOptions ⟨scheme, t⟩ family current).put ⟨⟨scheme, t⟩, o⟩)
      ((ofOptions ⟨scheme, t'⟩ family current).put ⟨⟨scheme, t'⟩, o⟩) :=
    ⟨family.set current o, current, by simpa using hlt, put_ofOptions _ _ _ o,
      put_ofOptions _ _ _ o⟩
  have hb := builder_ofOptions ⟨scheme, t⟩ hlt
  have hb' := builder_ofOptions ⟨scheme, t'⟩ hlt
  cases st with
  | call c =>
      have hsame' : Builder.SameOptions scheme t t' _ _ := ⟨family[current], hb, hb'⟩
      refine (Builder.agree_call hsame' c).bind ?_
      rintro _ _ ⟨o, rfl, rfl⟩
      exact Traced.agree_pure ⟨hput o, .done⟩
  | reset =>
      refine Traced.agree_pure ⟨?_, .done⟩
      rw [hb, hb']
      exact hput {}
  | params =>
      rw [step, step, hb, hb']
      exact (agree_params scheme t t' _).bind fun ps ps' h => Traced.agree_pure ⟨hsame, .params h⟩
  | query => exact absurd rfl hst
  | clone =>
      -- a clone starts from default options, whoever sends
      refine Traced.agree_pure ⟨⟨family ++ [({} : Options)], family.length, by simp, ?_, ?_⟩, .done⟩
      · rw [hb]
        simp [ofOptions, Builder.clone, Builder.new]
      · rw [hb']
        simp [ofOptions, Builder.clone, Builder.new]
  | use i =>
      refine Traced.agree_pure ⟨?_, .done⟩
      by_cases hi : i < family.length
      · refine ⟨family, i, hi, ?_, ?_⟩ <;> simp [ofOptions, hi]
      · refine ⟨family, current, hlt, ?_, ?_⟩ <;> simp [ofOptions, hi]

theorem alike_outcome {s s' : Session} (hs : SameOptions scheme t t' s s')
    {x x' : Traced (Session × Answer)}
    (hx : Traced.Agree (fun r r' => SameOptions scheme t t' r.1 r'.1 ∧
      Answer.Alike scheme t t' r.2 r'.2) x x') (st : Step) :
    Outcome.Alike scheme t t' st (s.outcome x) (s'.outcome x') := by
  obtain ⟨_, out⟩ := x
  obtain ⟨_, out'⟩ := x'
  have hout := hx.outcome
  cases hout with
  | ok h => exact ⟨h.1, .inl (.ok h.2)⟩
  | error f => exact ⟨hs, .inl (.error f)⟩

/-- A step that asks for the query string changes nothing, whether it fails or not. -/
theorem outcome_step_query [Limits] (s : Session) :
    (s.step .query).records = [] ∧
      s.outcome (s.step .query) = ⟨s, s.builder.queryString.map .query⟩ := by
  rw [step]
  cases s.builder.queryString <;> exact ⟨rfl, rfl⟩

/-- What a step leaves for two senders. -/
theorem alike_step [Limits] {s s' : Session} (h : SameOptions scheme t t' s s') (st : Step) :
    (s.step st).records = (s'.step st).records ∧
      Outcome.Alike scheme t t' st (s.outcome (s.step st)) (s'.outcome (s'.step st)) := by
  by_cases hst : st = .query
  · subst hst
    obtain ⟨hlog, hout⟩ := s.outcome_step_query
    obtain ⟨hlog', hout'⟩ := s'.outcome_step_query
    rw [hlog, hlog', hout, hout']
    refine ⟨rfl, h, ?_⟩
    obtain ⟨family, current, hlt, rfl, rfl⟩ := h
    rw [builder_ofOptions ⟨scheme, t⟩ hlt, builder_ofOptions ⟨scheme, t'⟩ hlt]
    obtain hsame | ⟨hsome, hturns, hturns'⟩ := alike_query scheme t t' family[current]
    · exact .inl (hsame.map fun _ _ => .query)
    · exact .inr ⟨rfl, hsome, hturns.map _, hturns'.map _⟩
  · have hstep := agree_step h hst
    exact ⟨hstep.records, alike_outcome h hstep st⟩

/-- Runs of the same steps leave the same log and, step by step, the same but for the token. -/
theorem alike_run [Limits] {s s' : Session} (h : SameOptions scheme t t' s s') (steps : List Step) :
    (s.run steps).1 = (s'.run steps).1 ∧
      RunsAlike scheme t t' steps (s.run steps).2 (s'.run steps).2 := by
  induction steps generalizing s s' with
  | nil => exact ⟨rfl, .nil⟩
  | cons st rest ih =>
      obtain ⟨hrecords, hout⟩ := alike_step h st
      obtain ⟨hlog, hrest⟩ := ih hout.session
      refine ⟨?_, .cons hout hrest⟩
      show (s.step st).records ++ _ = (s'.step st).records ++ _
      rw [hrecords, hlog]

theorem sameOptions_start : SameOptions scheme t t' (start ⟨scheme, t⟩) (start ⟨scheme, t'⟩) :=
  ⟨[{}], 0, Nat.one_pos, rfl, rfl⟩

end Session

/-! ### Compilations for two senders -/

variable {scheme t t'}

/-- Holds of a computation that is left to a token after some records: it names the token if that
cannot be encoded, and otherwise adds a record and succeeds. -/
def EndsOnToken {α : Type} (t : Text) (records : List LogRecord) (last : LogRecord)
    (x : Traced α) : Prop :=
  if t.isEncodable = true then ∃ a, x = ⟨records ++ [last], .ok a⟩
  else x = ⟨records, .error (.unencodable t)⟩

/-- Holds of two computations, one for each sender, that agree or are left to the tokens at the same
place. -/
inductive AgreeUpToToken {α : Type} (scheme : AuthScheme) (t t' : Text) (R : α → α → Prop)
    (x x' : Traced α) : Prop where
  | agree (h : Traced.Agree R x x')
  | turns (h : SomeUnencodable scheme t t') (records : List LogRecord) (last : LogRecord)
      (hx : EndsOnToken t records last x) (hx' : EndsOnToken t' records last x')

theorem EndsOnToken.after {α β : Type} {t : Text} {records : List LogRecord} {last : LogRecord}
    {f : β → Traced α} {b : β} (h : EndsOnToken t records last (f b)) (front : List LogRecord) :
    EndsOnToken t (front ++ records) last ((⟨front, .ok b⟩ : Traced β) >>= f) := by
  change EndsOnToken t (front ++ records) last ⟨front ++ (f b).records, (f b).outcome⟩
  unfold EndsOnToken at h ⊢
  split
  · next ht =>
      rw [if_pos ht] at h
      obtain ⟨a, ha⟩ := h
      exact ⟨a, by rw [ha, List.append_assoc]⟩
  · next ht =>
      rw [if_neg ht] at h
      rw [h]

/-- With a record behind it, an outcome that is left to a token is how a computation ends. -/
theorem TurnsOnToken.endsOnToken {α : Type} {t : Text} {e : Except Fault α}
    (h : TurnsOnToken t e) (level : Level) (channel : Channel) (message : Text) :
    EndsOnToken t [] ⟨level, channel, message⟩ (do
      let a ← Traced.ofExcept e
      Traced.log level channel message
      return a) := by
  unfold TurnsOnToken at h
  unfold EndsOnToken
  split
  · next ht =>
      rw [if_pos ht] at h
      obtain ⟨a, rfl⟩ := h
      exact ⟨a, rfl⟩
  · next ht =>
      rw [if_neg ht] at h
      rw [h]
      rfl

/-- What agrees can stand in front. -/
theorem AgreeUpToToken.after {α β : Type} {R : β → β → Prop} {S : α → α → Prop}
    {x x' : Traced β} (h : Traced.Agree R x x') {f g : β → Traced α}
    (hfg : ∀ b b', R b b' → AgreeUpToToken scheme t t' S (f b) (g b')) :
    AgreeUpToToken scheme t t' S (x >>= f) (x' >>= g) := by
  obtain ⟨records, outcome⟩ := x
  obtain ⟨records', outcome'⟩ := x'
  obtain ⟨rfl, hout⟩ : records = records' ∧ Traced.SameOutcome R outcome outcome' := ⟨h.1, h.2⟩
  cases hout with
  | error f => exact .agree ⟨rfl, .error f⟩
  | ok hR =>
      cases hfg _ _ hR with
      | agree h => exact .agree ⟨congrArg (records ++ ·) h.records, h.outcome⟩
      | turns h inner last hx hx' =>
          exact .turns h (records ++ inner) last (hx.after records) (hx'.after records)

section Limits

variable [Limits]

theorem Compilation.agree_run (c : Compilation) (today : Day) :
    AgreeUpToToken scheme t t' (SameQuery scheme t t') (c.run ⟨scheme, t⟩ today)
      (c.run ⟨scheme, t'⟩ today) := by
  refine .after (Builder.agree_callAll Builder.sameOptions_new (c.calls today)) ?_
  intro b b' hb
  obtain ⟨o, rfl, rfl⟩ := hb
  obtain hquery | ⟨hsome, hturns, hturns'⟩ := alike_query scheme t t' o
  · refine .agree ((Traced.agree_ofExcept hquery).bind fun query query' hquery => ?_)
    refine (agree_params scheme t t' o).bind fun ps ps' hps => ?_
    -- the record names the number of parameters, which is the same for both senders
    rw [hps.length_eq]
    exact Traced.Agree.after _ fun _ => Traced.agree_pure hquery
  · cases htake : o.takeText with
    | error f =>
        refine .agree ?_
        simp only [Builder.queryString, Builder.params, Options.params, htake]
        exact ⟨rfl, .error f⟩
    | ok take =>
        have hps : Builder.params ⟨⟨scheme, t⟩, o⟩ = .ok (o.paramsWith ⟨scheme, t⟩ take) := by
          rw [Builder.params, Options.params, htake]
          rfl
        have hps' : Builder.params ⟨⟨scheme, t'⟩, o⟩ = .ok (o.paramsWith ⟨scheme, t'⟩ take) := by
          rw [Builder.params, Options.params, htake]
          rfl
        have hlength := (sameButToken_paramsWith scheme t t' id o take).length_eq
        rw [id, id] at hlength
        simp only [hps, hps']
        refine .turns hsome [] _ (hturns.endsOnToken _ _ _) ?_
        rw [hlength]
        exact hturns'.endsOnToken _ _ _

theorem agree_search (r : SearchRequest) (today : Day) :
    Traced.Agree (SameButToken scheme t t' id) (r.compile ⟨scheme, t⟩ today)
      (r.compile ⟨scheme, t'⟩ today) := by
  refine Traced.Agree.after _ fun filter => ?_
  refine (Builder.agree_callAll Builder.sameOptions_new _).bind ?_
  rintro _ _ ⟨o, rfl, rfl⟩
  exact agree_params scheme t t' o

theorem agree_get (r : GetRequest) :
    Traced.Agree (SameButToken scheme t t' id) (r.compile ⟨scheme, t⟩)
      (r.compile ⟨scheme, t'⟩) := by
  refine (Builder.agree_call Builder.sameOptions_new _).bind ?_
  rintro _ _ ⟨o, rfl, rfl⟩
  exact agree_params scheme t t' o

end Limits

end Senders

/-! ### Senders that are found -/

namespace Auth

/-- Holds of two senders of one scheme, which can differ in their tokens only. -/
def SameScheme (a b : Auth) : Prop :=
  a.scheme = b.scheme

theorem agree_ofEnvironment [Limits] (environment : Environment) {t t' : Text}
    (ht : Text.isAllBlank t = false) (ht' : Text.isAllBlank t' = false) :
    Traced.Agree SameScheme (ofEnvironment (("TP_API_KEY".toText, t) :: environment))
      (ofEnvironment (("TP_API_KEY".toText, t') :: environment)) := by
  have hfound {u : Text} (hu : Text.isAllBlank u = false) :
      ofEnvironment (("TP_API_KEY".toText, u) :: environment) = (do
        Traced.log .debug .config "Using API key auth from TP_API_KEY".toText
        return ⟨.apiKey, Text.strip u⟩) := by
    have hstrip : (Text.strip u).isEmpty = false := by rw [Text.isEmpty_strip, hu]
    have hvalue : variableText (("TP_API_KEY".toText, u) :: environment) "TP_API_KEY" = u := rfl
    rw [ofEnvironment, hvalue, hstrip]
    rfl
  rw [hfound ht, hfound ht']
  exact Traced.Agree.after _ fun _ => Traced.agree_pure rfl

/-- A section with a token names the sender of its scheme. -/
theorem ofSection_eq [Limits] {entries : List (Datum × Datum)}
    (h : (sectionToken entries).isGiven = true) :
    ofSection entries = (do
      let scheme ← parseScheme (sectionType entries)
      let token ← (sectionToken entries).written
      return ⟨scheme, token⟩) := by
  unfold ofSection
  cases parseScheme (sectionType entries) with
  | error f => rfl
  | ok scheme =>
      rw [h]
      cases (sectionToken entries).written <;> simp [bind, Except.bind, pure, Except.pure]

theorem given?_insert_self (name : String) {v : Datum} (hv : v.isGiven = true)
    (entries : List (Datum × Datum)) :
    given? (Datum.insert (.text name.toText) v entries) name = some v := by
  rw [given?, Datum.lookupText_insert_self]
  exact if_pos hv

theorem given?_insert_of_ne {name other : String} (h : name ≠ other) (v : Datum)
    (entries : List (Datum × Datum)) :
    given? (Datum.insert (.text name.toText) v entries) other = given? entries other := by
  rw [given?, Datum.lookupText_insert_of_ne (fun e => h (Text.toText_injective e)), ← given?]

theorem isGiven_of_given? {entries : List (Datum × Datum)} {name : String} {v : Datum}
    (h : given? entries name = some v) : v.isGiven = true := by
  unfold given? at h
  split at h
  · next d =>
      split at h
      · next hd => exact Option.some.inj h ▸ hd
      · cases h
  · cases h

theorem isGiven_text {t : Text} (h : t ≠ []) : (Datum.text t).isGiven = true := by
  simpa [Datum.isGiven] using h

/-- The names under which a section gives its token. -/
inductive IsTokenName : String → Prop where
  | token : IsTokenName "token"
  | apiKey : IsTokenName "apiKey"

/-- Of two names of a token one goes before the other, so that the token of a section is the text
under the one name, or else what stands under the other. -/
theorem sectionToken_insert {name : String} (hname : IsTokenName name)
    (named : List (Datum × Datum)) :
    (∀ t, t ≠ [] → sectionToken (Datum.insert (.text name.toText) (.text t) named) = .text t) ∨
      ∃ d, d.isGiven = true ∧
        ∀ t, t ≠ [] → sectionToken (Datum.insert (.text name.toText) (.text t) named) = d := by
  unfold sectionToken
  cases hname with
  | token => exact .inl fun t ht => by rw [given?_insert_self _ (isGiven_text ht)]
  | apiKey =>
      cases h : given? named "token" with
      | some d =>
          refine .inr ⟨d, isGiven_of_given? h, fun t ht => ?_⟩
          rw [given?_insert_of_ne (by decide), h]
      | none =>
          refine .inl fun t ht => ?_
          rw [given?_insert_of_ne (by decide), h, given?_insert_self _ (isGiven_text ht)]
          rfl

/-- The type of a section does not depend on what its token is. -/
theorem sectionType_insert {name : String} (hname : IsTokenName name)
    (named : List (Datum × Datum)) {t t' : Text} (ht : t ≠ []) (ht' : t' ≠ []) :
    sectionType (Datum.insert (.text name.toText) (.text t) named) =
      sectionType (Datum.insert (.text name.toText) (.text t') named) := by
  unfold sectionType
  cases hname with
  | token =>
      rw [given?_insert_of_ne (by decide), given?_insert_of_ne (by decide),
        given?_insert_of_ne (by decide), given?_insert_of_ne (by decide)]
  | apiKey =>
      have htype (u : Text) :
          given? (Datum.insert (.text "apiKey".toText) (.text u) named) "type" =
            given? named "type" := given?_insert_of_ne (by decide) _ _
      rw [htype, htype, given?_insert_self _ (isGiven_text ht),
        given?_insert_self _ (isGiven_text ht')]

/-- The configuration with a token in its section on authentication. -/
def withToken (entries named : List (Datum × Datum)) (name : String) (t : Text) : Datum :=
  .dict (Datum.insert (.text "auth".toText)
    (.dict (Datum.insert (.text name.toText) (.text t) named)) entries)

theorem ofConfig_withToken [Limits] (entries named : List (Datum × Datum)) (name : String)
    (t : Text) :
    ofConfig (withToken entries named name t) =
      ofSection (Datum.insert (.text name.toText) (.text t) named) := by
  have hgiven : Datum.isGiven (.dict (Datum.insert (.text name.toText) (.text t) named)) =
      true := by
    simpa [Datum.isGiven] using Datum.insert_ne_nil _ _ _
  rw [withToken, ofConfig, given?_insert_self "auth" hgiven]

theorem sameOutcome_ofConfig [Limits] {name : String} (hname : IsTokenName name)
    (entries named : List (Datum × Datum)) {t t' : Text} (ht : t ≠ []) (ht' : t' ≠ []) :
    Traced.SameOutcome SameScheme (ofConfig (withToken entries named name t))
      (ofConfig (withToken entries named name t')) := by
  rw [ofConfig_withToken, ofConfig_withToken]
  obtain htext | ⟨d, hd, hsame⟩ := sectionToken_insert hname named
  · rw [ofSection_eq (by rw [htext t ht]; exact isGiven_text ht),
      ofSection_eq (by rw [htext t' ht']; exact isGiven_text ht'),
      sectionType_insert hname named ht ht', htext t ht, htext t' ht']
    cases parseScheme _ with
    | error f => exact .error f
    | ok scheme => exact .ok rfl
  · -- the token is not the one that differs
    rw [ofSection_eq (by rwa [hsame t ht]), ofSection_eq (by rwa [hsame t' ht']),
      sectionType_insert hname named ht ht', hsame t ht, hsame t' ht']
    cases parseScheme _ with
    | error f => exact .error f
    | ok scheme =>
        cases d.written with
        | error f => exact .error f
        | ok token => exact .ok rfl

/-! ### Main statement -/

/-- **The token of a sender shows in its own parameter only.** Two senders of a scheme have the
same display. Sessions of the same steps, compilations and requests leave the same records for
both, fail alike, and give parameters that differ in the value of the token alone; but where a
query string is built for API keys, a key in which a surrogate stands alone is reported. Nor do
records or errors show a token that is read from an environment or from a configuration. -/
theorem token_only_in_parameter [Limits] (scheme : AuthScheme) (t t' : Text) :
    inspect ⟨scheme, t⟩ = inspect ⟨scheme, t'⟩ ∧
    (∀ steps,
      ((Session.start ⟨scheme, t⟩).run steps).1 = ((Session.start ⟨scheme, t'⟩).run steps).1 ∧
      Session.RunsAlike scheme t t' steps ((Session.start ⟨scheme, t⟩).run steps).2
        ((Session.start ⟨scheme, t'⟩).run steps).2) ∧
    (∀ (c : Compilation) (today : Day), AgreeUpToToken scheme t t' (SameQuery scheme t t')
      (c.run ⟨scheme, t⟩ today) (c.run ⟨scheme, t'⟩ today)) ∧
    (∀ (r : SearchRequest) (today : Day), Traced.Agree (SameButToken scheme t t' id)
      (r.compile ⟨scheme, t⟩ today) (r.compile ⟨scheme, t'⟩ today)) ∧
    (∀ r : GetRequest, Traced.Agree (SameButToken scheme t t' id) (r.compile ⟨scheme, t⟩)
      (r.compile ⟨scheme, t'⟩)) ∧
    (Text.isAllBlank t = false → Text.isAllBlank t' = false → ∀ environment,
      Traced.Agree SameScheme (ofEnvironment (("TP_API_KEY".toText, t) :: environment))
        (ofEnvironment (("TP_API_KEY".toText, t') :: environment))) ∧
    (t ≠ [] → t' ≠ [] → ∀ entries named name, IsTokenName name →
      Traced.SameOutcome SameScheme (ofConfig (withToken entries named name t))
        (ofConfig (withToken entries named name t'))) :=
  ⟨rfl, Session.alike_run Session.sameOptions_start, Compilation.agree_run, agree_search, agree_get,
    fun ht ht' environment => agree_ofEnvironment environment ht ht',
    fun ht ht' entries named _ hname => sameOutcome_ofConfig hname entries named ht ht'⟩

/-- A short token and a longer one, with a request that fails behind one that does not. -/
theorem token_only_in_parameter_lengths :
    let t := "k".toText
    let t' := "s3cret token".toText
    let steps := [Step.call (.take (.int 5)), .params, .call (.take (.int 0)), .query]
    Session.RunsAlike .apiKey t t' steps ((Session.start ⟨.apiKey, t⟩).run steps).2
        ((Session.start ⟨.apiKey, t'⟩).run steps).2 ∧
      Text.isAllBlank t = false ∧ Text.isAllBlank t' = false ∧
      Traced.Agree SameScheme (ofEnvironment [("TP_API_KEY".toText, t)])
        (ofEnvironment [("TP_API_KEY".toText, t')]) ∧
      t ≠ [] ∧ t' ≠ [] ∧ IsTokenName "apiKey" ∧
      Traced.SameOutcome SameScheme (ofConfig (withToken [] [] "apiKey" t))
        (ofConfig (withToken [] [] "apiKey" t')) := by
  intro t t' steps
  obtain ⟨-, hsteps, -, -, -, henvironment, hconfig⟩ := token_only_in_parameter .apiKey t t'
  have hdark : Text.isAllBlank t = false := by decide
  have hdark' : Text.isAllBlank t' = false := by decide
  have hne : t ≠ [] := by decide
  have hne' : t' ≠ [] := by decide
  exact ⟨(hsteps steps).2, hdark, hdark', henvironment hdark hdark' [], hne, hne', .apiKey,
    hconfig hne hne' [] [] "apiKey" .apiKey⟩

/-- A compilation fails for a token that is a surrogate and succeeds for another one. -/
theorem not_agree_run_surrogate :
    let t : Text := [.lone 0]
    let t' := "x".toText
    let c : Compilation := {}
    (c.run ⟨.apiKey, t⟩ Day.first).outcome = .error (.unencodable t) ∧
      (c.run ⟨.apiKey, t'⟩ Day.first).outcome = .ok "format=json&access_token=x".toText ∧
      ¬Traced.Agree (SameQuery .apiKey t t') (c.run ⟨.apiKey, t⟩ Day.first)
        (c.run ⟨.apiKey, t'⟩ Day.first) := by
  intro t t' c
  have hfails : (c.run ⟨.apiKey, t⟩ Day.first).outcome = .error (.unencodable t) := by
    decide +kernel
  have hworks : (c.run ⟨.apiKey, t'⟩ Day.first).outcome =
      .ok "format=json&access_token=x".toText := by
    decide +kernel
  refine ⟨hfails, hworks, fun h => ?_⟩
  have hout := h.outcome
  rw [hfails, hworks] at hout
  cases hout

end Auth

end TrackerQuery
