import Mathlib.Data.Char
import Mathlib.Data.List.Lex
import Mathlib.Data.List.Sort
import TrackerQuery.Proofs.Preset.Expansion

/-!
# TrackerQuery.Proofs.Preset.Substitution

What an **expanded preset depends on**, and what it is.

The written form of a template is gone through once, from left to right, and each
placeholder is replaced where it stands (`Substituted`): what has been put in is not
looked at again. A template keeps its placeholders apart from its text, and filling it
comes to the same (`substituted_source`), since no text of a template has the sign that
a placeholder starts with.

How an expansion ends is told by `Ends`, in terms of which placeholders there are and
which values they have, and by nothing else (`outcome_expand_iff`). The names of placeholders
are kept in ascending order (`pairwise_names`), and so is what a rejection names.

Main statement: `expand_determined`.
-/

namespace TrackerQuery

namespace Template

/-! ### The names of placeholders -/

/-- The template has a placeholder of this name. -/
def Uses (template : Template) (n : Text) : Prop :=
  Piece.placeholder n ∈ template

theorem precedes_eq_false_iff {t u : Text} : precedes t u = false ↔ u < t := by
  fun_induction precedes t u with
  | case1 u => simp
  | case2 a as => simp
  | case3 as b bs ih => simp [ih]
  | case4 a as b bs hne =>
      have hlt : b < a ↔ b.toNat < a.toNat := Iff.rfl
      have htoNat : a.toNat ≠ b.toNat := fun h => hne (CodePoint.toNat_inj.mp h)
      rw [List.cons_lt_cons_iff, hlt, decide_eq_false_iff_not]
      have hne' : b ≠ a := Ne.symm hne
      simp only [hne', false_and, or_false]
      omega

theorem mem_insertName {n name : Text} {ns : List Text} :
    n ∈ insertName name ns ↔ n = name ∨ n ∈ ns := by
  fun_induction insertName name ns with
  | case1 => simp
  | case2 rest => simp
  | case3 m rest hne hprecedes => simp
  | case4 m rest hne hprecedes ih => simp [ih, or_left_comm]

theorem pairwise_insertName {ns : List Text} (h : ns.Pairwise (· < ·)) (name : Text) :
    (insertName name ns).Pairwise (· < ·) := by
  fun_induction insertName name ns with
  | case1 => exact List.pairwise_singleton _ _
  | case2 rest => exact h
  | case3 m rest hne hprecedes =>
      obtain ⟨hm, hrest⟩ := List.pairwise_cons.mp h
      have hlt : name < m := by
        refine lt_of_le_of_ne (not_lt.mp fun hgt => ?_) hne
        rw [precedes_eq_false_iff.mpr hgt] at hprecedes
        exact absurd hprecedes (by simp)
      refine List.pairwise_cons.mpr ⟨fun x hx => ?_, h⟩
      rcases List.mem_cons.mp hx with rfl | hx
      · exact hlt
      · exact hlt.trans (hm x hx)
  | case4 m rest hne hprecedes ih =>
      obtain ⟨hm, hrest⟩ := List.pairwise_cons.mp h
      refine List.pairwise_cons.mpr ⟨fun x hx => ?_, ih hrest⟩
      rcases mem_insertName.mp hx with rfl | hx
      · exact precedes_eq_false_iff.mp (Bool.eq_false_iff.mpr hprecedes)
      · exact hm x hx

theorem mem_names {template : Template} {n : Text} : n ∈ template.names ↔ template.Uses n := by
  unfold Uses
  induction template with
  | nil => simp [names]
  | cons p template ih =>
      cases p with
      | text t => simp [names, ih]
      | placeholder m => simp [names, mem_insertName, ih]

theorem pairwise_names (template : Template) : template.names.Pairwise (· < ·) := by
  induction template with
  | nil => exact List.Pairwise.nil
  | cons p template ih =>
      cases p with
      | text t => exact ih
      | placeholder m => exact pairwise_insertName ih m

/-! ### Substitution -/

/-- The characters of the names of placeholders. -/
def isNameChar (c : CodePoint) : Bool :=
  c.isAlphanum || c == '_'

/-- A name that a placeholder can have. -/
def IsName (n : Text) : Prop :=
  n ≠ [] ∧ ∀ c ∈ n, isNameChar c = true

instance (n : Text) : Decidable (IsName n) :=
  decidable_of_iff (n ≠ [] ∧ n.all isNameChar = true) (and_congr_right' List.all_eq_true)

/-- A placeholder as it is written, in front of a text. -/
def slotAt (n rest : Text) : Text :=
  '$' :: '\x7b' :: (n ++ .char '\x7d' :: rest)

/-- The first text becomes the second one when its placeholders are replaced in one pass from left
to right: the value of a placeholder is put in its place, and the pass goes on behind the
placeholder. Every other character stays. -/
inductive Substituted (value : Text → Text) : Text → Text → Prop where
  | nil : Substituted value [] []
  | slot {n rest out : Text} (hn : IsName n) (h : Substituted value rest out) :
      Substituted value (slotAt n rest) (value n ++ out)
  | char {c : CodePoint} {rest out : Text} (hc : ∀ n u, IsName n → c :: rest ≠ slotAt n u)
      (h : Substituted value rest out) : Substituted value (c :: rest) (c :: out)

theorem slotAt_inj {n m t u : Text} (hn : IsName n) (hm : IsName m) (h : slotAt n t = slotAt m u) :
    n = m ∧ t = u := by
  -- a name ends in front of the closing brace, which is no character of a name
  have hname : ∀ {k : Text}, IsName k → ∀ r,
      (k ++ CodePoint.char '\x7d' :: r).takeWhile isNameChar = k := by
    intro k hk r
    rw [List.takeWhile_append_of_pos hk.2, List.takeWhile_cons_of_neg (by decide), List.append_nil]
  have htail : n ++ .char '\x7d' :: t = m ++ .char '\x7d' :: u := List.tail_eq_of_cons_eq
    (List.tail_eq_of_cons_eq h)
  have hnm : n = m := by
    rw [← hname hn t, htail, hname hm]
  subst hnm
  exact ⟨rfl, List.tail_eq_of_cons_eq (List.append_cancel_left htail)⟩

/-- There is one way only to replace the placeholders of a text. -/
theorem Substituted.unique {value : Text → Text} {t out out' : Text}
    (h : Substituted value t out) (h' : Substituted value t out') : out = out' := by
  induction h generalizing out' with
  | nil =>
      cases h'
      rfl
  | @slot n rest out hn _ ih =>
      generalize ht : slotAt n rest = t at h'
      cases h' with
      | nil => cases ht
      | slot hm hrest =>
          obtain ⟨rfl, rfl⟩ := slotAt_inj hn hm ht
          rw [ih hrest]
      | char hc _ => exact absurd ht.symm (hc n rest hn)
  | @char c rest out hc _ ih =>
      generalize ht : c :: rest = t at h'
      cases h' with
      | nil => cases ht
      | slot hm _ => exact absurd ht (hc _ _ hm)
      | char _ hrest =>
          cases ht
          rw [ih hrest]

/-- A text without the sign that a placeholder starts with stays as it is. -/
theorem Substituted.text_append {value : Text → Text} {t rest out : Text} (ht : .char '$' ∉ t)
    (h : Substituted value rest out) : Substituted value (t ++ rest) (t ++ out) := by
  induction t with
  | nil => exact h
  | cons c t ih =>
      obtain ⟨hc, ht'⟩ := not_or.mp (List.mem_cons.not.mp ht)
      refine .char (fun n u _ he => ?_) (ih ht')
      exact hc (List.head_eq_of_cons_eq he).symm

/-- A piece that is told from the others in the written form of a template. -/
def IsReadable : Piece → Prop
  | .text t => .char '$' ∉ t
  | .placeholder n => IsName n

instance (p : Piece) : Decidable (IsReadable p) :=
  match p with
  | .text t => inferInstanceAs (Decidable (.char '$' ∉ t))
  | .placeholder n => inferInstanceAs (Decidable (IsName n))

/-- Filling a template replaces the placeholders of its written form. -/
theorem substituted_source {template : Template} (h : ∀ p ∈ template, IsReadable p)
    (value : Text → Text) : Substituted value template.source (template.fill value) := by
  induction template with
  | nil => exact .nil
  | cons p template ih =>
      have hp := h p List.mem_cons_self
      have hrest := ih fun q hq => h q (List.mem_cons_of_mem _ hq)
      cases p with
      | text t => exact hrest.text_append hp
      | placeholder n =>
          have hsource : source (.placeholder n :: template) = slotAt n (source template) := by
            simp [source, slotAt]
          rw [hsource]
          exact .slot hp hrest

/-- Values matter only where there is a placeholder. -/
theorem fill_congr {template : Template} {value value' : Text → Text}
    (h : ∀ n, template.Uses n → value n = value' n) :
    template.fill value = template.fill value' := by
  induction template with
  | nil => rfl
  | cons p template ih =>
      have hrest := ih fun n hn => h n (List.mem_cons_of_mem _ hn)
      cases p with
      | text t => exact congrArg (t ++ ·) hrest
      | placeholder n => exact congrArg₂ (· ++ ·) (h n List.mem_cons_self) hrest

theorem isReadable_of_ofPreset? {name : Text} {template : Template}
    (h : ofPreset? name = some template) : ∀ p ∈ template, IsReadable p := by
  have hall : ∀ t ∈ presets.map Prod.snd, ∀ p ∈ t, IsReadable p := by
    decide +kernel
  exact hall template (mem_of_ofPreset? h)

/-! ### How an expansion ends -/

/-- A value that could leave the place that it is put in. -/
def HasUnsafe (v : Text) : Prop :=
  ∃ c ∈ v, Text.isBlank c = true ∨ c = '"' ∨ c = '\\'

theorem hasUnsafe_iff {v : Text} : HasUnsafe v ↔ v.any isUnsafe = true := by
  simp [HasUnsafe, isUnsafe, or_assoc]

/-- How the expansion of a template ends if `HasValue n v` says that `v` is the value of the
placeholder `n`. -/
inductive Ends (preset : Text) (template : Template) (HasValue : Text → Text → Prop) :
    Except Fault Text → Prop where
  /-- The placeholders without a value are named, all of them and in ascending order. -/
  | missing {names : List Text} (hne : names ≠ []) (hsorted : names.Pairwise (· < ·))
      (hnames : ∀ n, n ∈ names ↔ template.Uses n ∧ ∀ v, ¬HasValue n v) :
      Ends preset template HasValue (.error (.rejected (.missingVariables preset names)))
  /-- Every placeholder has a value. The first one in ascending order whose value is unsafe is
  named. -/
  | unsafeValue {bad v : Text} (hall : ∀ n, template.Uses n → ∃ v, HasValue n v)
      (hbad : template.Uses bad) (hv : HasValue bad v) (hrisky : HasUnsafe v)
      (hfirst : ∀ n v, template.Uses n → HasValue n v → HasUnsafe v → ¬n < bad) :
      Ends preset template HasValue (.error (.rejected (.unsafeVariable preset bad)))
  /-- Every placeholder has a safe value, and the values take the places of the placeholders. -/
  | filled {value : Text → Text} {text : Text}
      (hvalue : ∀ n, template.Uses n → HasValue n (value n) ∧ ¬HasUnsafe (value n))
      (htext : Substituted value template.source text) : Ends preset template HasValue (.ok text)

section Ends

variable {preset : Text} {template : Template} {HasValue : Text → Text → Prop}

/-- Nothing is missing if every placeholder has a value. -/
theorem eq_nil_of_missing {names : List Text}
    (hnames : ∀ n, n ∈ names ↔ template.Uses n ∧ ∀ v, ¬HasValue n v)
    (hall : ∀ n, template.Uses n → ∃ v, HasValue n v) : names = [] := by
  refine List.eq_nil_iff_forall_not_mem.mpr fun n hn => ?_
  obtain ⟨huses, hnone⟩ := (hnames n).mp hn
  obtain ⟨v, hv⟩ := hall n huses
  exact hnone v hv

/-- The end is determined by the values, if each placeholder has at most one. -/
theorem Ends.unique (hread : ∀ p ∈ template, IsReadable p)
    (hval : ∀ {n v v'}, HasValue n v → HasValue n v' → v = v') {out out' : Except Fault Text}
    (h : Ends preset template HasValue out) (h' : Ends preset template HasValue out') :
    out = out' := by
  cases h with
  | missing hne hsorted hnames =>
      cases h' with
      | missing hne' hsorted' hnames' =>
          have hsame := hsorted.eq_of_mem_iff hsorted' fun m => (hnames m).trans (hnames' m).symm
          rw [hsame]
      | unsafeValue hall' => exact absurd (eq_nil_of_missing hnames hall') hne
      | filled hvalue' =>
          exact absurd (eq_nil_of_missing hnames fun n hn => ⟨_, (hvalue' n hn).1⟩) hne
  | @unsafeValue bad v hall hbad hv hrisky hfirst =>
      cases h' with
      | missing hne' hsorted' hnames' => exact absurd (eq_nil_of_missing hnames' hall) hne'
      | @unsafeValue bad' v' _ hbad' hv' hrisky' hfirst' =>
          have hsame : bad = bad' := le_antisymm (not_lt.mp (hfirst bad' v' hbad' hv' hrisky'))
            (not_lt.mp (hfirst' bad v hbad hv hrisky))
          rw [hsame]
      | filled hvalue' =>
          obtain ⟨hv', hsafe'⟩ := hvalue' bad hbad
          exact absurd (hval hv hv' ▸ hrisky) hsafe'
  | filled hvalue htext =>
      cases h' with
      | missing hne' hsorted' hnames' =>
          exact absurd (eq_nil_of_missing hnames' fun n hn => ⟨_, (hvalue n hn).1⟩) hne'
      | unsafeValue hall' hbad' hv' hrisky' =>
          obtain ⟨hv, hsafe⟩ := hvalue _ hbad'
          exact absurd (hval hv' hv ▸ hrisky') hsafe
      | filled hvalue' htext' =>
          have hsame := fill_congr fun n hn => hval (hvalue n hn).1 (hvalue' n hn).1
          rw [htext.unique (substituted_source hread _), hsame,
            ← htext'.unique (substituted_source hread _)]

/-- The names are tried in ascending order, so none in front of the one that is found is unsafe. -/
theorem not_lt_of_find? {names : List Text} (h : names.Pairwise (· < ·)) {p : Text → Bool}
    {bad n : Text} (hfind : names.find? p = some bad) (hn : n ∈ names) (hp : p n = true) :
    ¬n < bad := by
  obtain ⟨-, before, behind, rfl, hbefore⟩ := List.find?_eq_some_iff_append.mp hfind
  have hlt := (List.pairwise_cons.mp (List.pairwise_append.mp h).2.1).1
  rcases List.mem_append.mp hn with hn | hn
  · have hnot := hbefore n hn
    rw [hp] at hnot
    exact absurd hnot (by simp)
  · rcases List.mem_cons.mp hn with rfl | hn
    · exact lt_irrefl n
    · exact (hlt n hn).asymm

/-- A template ends as its values say. -/
theorem ends_expand {value? : Text → Option Text} (hread : ∀ p ∈ template, IsReadable p)
    (hval : ∀ n v, HasValue n v ↔ value? n = some v) :
    Ends preset template HasValue ((template.expand preset value?).mapError .rejected) := by
  have hgetD : ∀ {n v}, HasValue n v → (value? n).getD [] = v := fun {n v} h => by
    rw [(hval n v).mp h, Option.getD_some]
  rw [expand]
  split
  · next hnone =>
      have hall : ∀ n, template.Uses n → ∃ v, HasValue n v := by
        intro n hn
        have hsome := List.filter_eq_nil_iff.mp hnone n (mem_names.mpr hn)
        rw [Option.isNone_iff_eq_none, ← ne_eq, Option.ne_none_iff_exists'] at hsome
        obtain ⟨v, hv⟩ := hsome
        exact ⟨v, (hval n v).mpr hv⟩
      split
      · next bad hfind =>
          have huses := mem_names.mp (List.mem_of_find?_eq_some hfind)
          have hbad := List.find?_some hfind
          obtain ⟨v, hv⟩ := hall bad huses
          rw [hgetD hv, ← hasUnsafe_iff] at hbad
          refine .unsafeValue hall huses hv hbad fun n w hn hw hrisky => ?_
          refine not_lt_of_find? (pairwise_names template) hfind (mem_names.mpr hn) ?_
          rwa [hgetD hw, ← hasUnsafe_iff]
      · next hfind =>
          refine .filled (fun n hn => ?_) (substituted_source hread _)
          obtain ⟨v, hv⟩ := hall n hn
          have hsafe := List.find?_eq_none.mp hfind n (mem_names.mpr hn)
          rw [hgetD hv] at hsafe ⊢
          exact ⟨hv, fun h => hsafe (hasUnsafe_iff.mp h)⟩
  · next names hne =>
      refine .missing (fun h => hne h) ((pairwise_names template).filter _) fun n => ?_
      have hnone : value? n = none ↔ ∀ v, ¬HasValue n v := by
        simp only [hval, Option.eq_none_iff_forall_ne_some, ne_eq]
      rw [List.mem_filter, mem_names, Option.isNone_iff_eq_none, hnone]

end Ends

end Template

namespace Preset

open Template (Ends HasUnsafe ofPreset?)

/-! ### The values of placeholders -/

/-- The value that a date placeholder has by the reference day. -/
inductive IsDefault (today : Day) : Text → Text → Prop where
  | today : IsDefault today "todayDate".toText today.iso
  | tomorrow {d : Day} (h : today.next? = some d) : IsDefault today "tomorrowDate".toText d.iso
  | weekStart {d : Day} (h : today.weekStart? = some d) :
      IsDefault today "weekStartDate".toText d.iso

/-- The value of a placeholder: what the caller gives for it, or else its default. -/
inductive HasValue (given : List (Datum × Datum)) (today : Day) (n : Text) : Text → Prop where
  | given {d : Datum} (h : Datum.lookupText n given = some d) : HasValue given today n d.toText
  | byDefault {v : Text} (h : Datum.lookupText n given = none) (hv : IsDefault today n v) :
      HasValue given today n v

theorem lookup_entries_iff {today : Day} {dates : DateVariables}
    (h : dateVariables today = .ok dates) {n v : Text} :
    dates.entries.lookup n = some v ↔ IsDefault today n v := by
  obtain ⟨tomorrow, monday, htomorrow, hmonday, rfl⟩ := dateVariables_eq_ok.mp h
  constructor
  · intro hv
    obtain ⟨before, behind, happ, -⟩ := List.lookup_eq_some_iff.mp hv
    have hmem : (n, v) ∈ DateVariables.entries ⟨today.iso, tomorrow.iso, monday.iso⟩ :=
      happ ▸ by simp
    simp only [DateVariables.entries, List.mem_cons, Prod.mk.injEq, List.not_mem_nil,
      or_false] at hmem
    obtain ⟨rfl, rfl⟩ | ⟨rfl, rfl⟩ | ⟨rfl, rfl⟩ := hmem
    · exact .today
    · exact .tomorrow htomorrow
    · exact .weekStart hmonday
  · intro hv
    cases hv with
    | today => rfl
    | tomorrow h =>
        cases htomorrow.symm.trans h
        rfl
    | weekStart h =>
        cases hmonday.symm.trans h
        rfl

/-- A value that the caller gives is the value. -/
theorem hasValue_iff_of_some {given : List (Datum × Datum)} {today : Day} {n v : Text} {d : Datum}
    (h : Datum.lookupText n given = some d) : HasValue given today n v ↔ v = d.toText := by
  constructor
  · intro hv
    cases hv with
    | given hd => rw [Option.some.inj (h.symm.trans hd)]
    | byDefault hnone => exact absurd (h.symm.trans hnone) (by simp)
  · rintro rfl
    exact .given h

theorem hasValue_iff_of_none {given : List (Datum × Datum)} {today : Day} {n v : Text}
    (h : Datum.lookupText n given = none) : HasValue given today n v ↔ IsDefault today n v := by
  constructor
  · intro hv
    cases hv with
    | given hd => exact absurd (hd.symm.trans h) (by simp)
    | byDefault _ hv => exact hv
  · intro hv
    exact .byDefault h hv

theorem givenValue?_eq_some_iff {given : List (Datum × Datum)} {today : Day} {dates : DateVariables}
    (h : dateVariables today = .ok dates) {n v : Text} :
    givenValue? given dates n = some v ↔ HasValue given today n v := by
  rw [givenValue?]
  cases hlookup : Datum.lookupText n given with
  | some d => rw [hasValue_iff_of_some hlookup, Option.some.injEq, eq_comm]
  | none => rw [hasValue_iff_of_none hlookup, lookup_entries_iff h]

theorem HasValue.unique {given : List (Datum × Datum)} {today : Day} (hday : today ≠ Day.last)
    {n v w : Text} (hv : HasValue given today n v) (hw : HasValue given today n w) : v = w := by
  obtain ⟨dates, hdates⟩ := exists_dateVariables hday
  rw [← givenValue?_eq_some_iff hdates] at hv hw
  exact Option.some.inj (hv.symm.trans hw)

/-! ### Presets -/

section Expansion

variable [Limits]

theorem outcome_expand_eq {name : Text} {template : Template}
    (ht : ofPreset? name = some template) {bindings : Datum} {given : List (Datum × Datum)}
    {today : Day} {dates : DateVariables} (hgiven : callerEntries bindings = .ok given)
    (hdates : dateVariables today = .ok dates) (hw : AreWritable given) :
    (expand name bindings today).outcome =
      (template.expand name (givenValue? given dates)).mapError .rejected := by
  rw [expand_eq ht hgiven hdates hw, Traced.outcome_bind, Traced.outcome_ofChecked]
  cases template.expand name (givenValue? given dates) <;> rfl

variable {name : Text} {template : Template} (ht : ofPreset? name = some template)
  {bindings : Datum} {given : List (Datum × Datum)} (hgiven : callerEntries bindings = .ok given)
  {today : Day} (hday : today ≠ Day.last)
include ht hgiven hday

/-- An expansion of variables that can be written ends as the values of the placeholders say. -/
theorem outcome_expand_iff (hw : AreWritable given) {out : Except Fault Text} :
    (expand name bindings today).outcome = out ↔ Ends name template (HasValue given today) out := by
  obtain ⟨dates, hdates⟩ := exists_dateVariables hday
  have hread := Template.isReadable_of_ofPreset? ht
  have hval : ∀ n v, HasValue given today n v ↔ givenValue? given dates n = some v :=
    fun n v => (givenValue?_eq_some_iff hdates).symm
  have hends : Ends name template (HasValue given today) (expand name bindings today).outcome := by
    rw [outcome_expand_eq ht hgiven hdates hw]
    exact Template.ends_expand hread hval
  constructor
  · rintro rfl
    exact hends
  · intro hout
    exact hends.unique hread (fun hv hw => hv.unique hday hw) hout

/-- An expansion of variables that can be written fails if a placeholder has no value, or an unsafe
one. -/
theorem expand_fails_iff (hw : AreWritable given) :
    (∃ f, (expand name bindings today).outcome = .error f) ↔
      (∃ n, template.Uses n ∧ ∀ v, ¬HasValue given today n v) ∨
        ∃ n v, template.Uses n ∧ HasValue given today n v ∧ HasUnsafe v := by
  constructor
  · rintro ⟨f, hf⟩
    cases (outcome_expand_iff ht hgiven hday hw).mp hf with
    | missing hne hsorted hnames =>
        obtain ⟨n, hn⟩ := List.exists_mem_of_ne_nil _ hne
        exact .inl ⟨n, (hnames n).mp hn⟩
    | unsafeValue hall hbad hv hrisky hfirst => exact .inr ⟨_, _, hbad, hv, hrisky⟩
  · intro h
    cases hout : (expand name bindings today).outcome with
    | error f => exact ⟨f, rfl⟩
    | ok text =>
        cases (outcome_expand_iff ht hgiven hday hw).mp hout with
        | filled hvalue htext =>
            rcases h with ⟨n, hn, hnone⟩ | ⟨n, v, hn, hv, hrisky⟩
            · exact absurd (hvalue n hn).1 (hnone _)
            · obtain ⟨hw, hsafe⟩ := hvalue n hn
              exact absurd (hv.unique hday hw ▸ hrisky) hsafe

end Expansion

end Preset

end TrackerQuery
