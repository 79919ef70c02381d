import Mathlib.Data.List.TakeWhile
import TrackerQuery.Include
import TrackerQuery.Proofs.Field
import TrackerQuery.Proofs.Traced

/-!
# TrackerQuery.Proofs.Include

Which texts are **include paths**, and what a list of them is read as.

`HasPathForm` is the grammar: letters and dots, and then perhaps one selection between
brackets. The check reads as many characters of one kind as there are and looks at
what comes then, which decides the grammar since neither bracket is a character of
either kind (`isPath_iff`). An accepted list of entries is the list of their canonical
forms, and each of these is a path (`check_eq_ok`).

The canonical form of a custom field has an underscore and no path has one, so what the check
admits can be said of the entry without its blanks (`hasPathForm_sanitize_iff`). A list is
rejected for its first entry that is not admitted (`check_decides`).

Paths are written one behind the other with nothing escaped. That they are found again is due
to the grammar alone: reading passes over a path to the comma or bracket behind it, since the
only commas of a path stand in its selection and the only brackets are those around it
(`isPart_of_hasPathForm`).
-/

namespace TrackerQuery.Include

/-- One or more letters, dots and commas between brackets. -/
def HasSelectionForm (t : Text) : Prop :=
  ∃ inner, t = .char '[' :: inner ++ [.char ']'] ∧
    inner ≠ [] ∧ ∀ c ∈ inner, isSelectionChar c = true

/-- One or more letters and dots, and perhaps a selection behind them. -/
def HasPathForm (t : Text) : Prop :=
  ∃ front selection, t = front ++ selection ∧ front ≠ [] ∧
    (∀ c ∈ front, isPathChar c = true) ∧ (selection = [] ∨ HasSelectionForm selection)

/-- A run of characters of one kind in front of a character of another kind is cut off whole. -/
theorem takeWhile_dropWhile_append {p : CodePoint → Bool} {t u : Text} (ht : ∀ c ∈ t, p c = true)
    (hu : ∀ c ∈ u.head?, p c = false) :
    (t ++ u).takeWhile p = t ∧ (t ++ u).dropWhile p = u := by
  rw [List.takeWhile_append_of_pos ht, List.dropWhile_append_of_pos ht]
  cases u with
  | nil => simp
  | cons c u =>
      have hc : ¬p c = true := by simp [hu c rfl]
      rw [List.takeWhile_cons_of_neg hc, List.dropWhile_cons_of_neg hc]
      simp

theorem isSelection_iff {t : Text} :
    isSelection t = true ↔
      ∃ inner, t = inner ++ [.char ']'] ∧ inner ≠ [] ∧ ∀ c ∈ inner, isSelectionChar c = true := by
  rw [isSelection, Bool.and_eq_true, Bool.not_eq_true', List.isEmpty_eq_false_iff, beq_iff_eq]
  constructor
  · rintro ⟨hne, hrest⟩
    refine ⟨t.takeWhile isSelectionChar, ?_, hne, fun c => List.mem_takeWhile_imp⟩
    rw [← hrest, List.takeWhile_append_dropWhile]
  · rintro ⟨inner, rfl, hne, hinner⟩
    obtain ⟨htake, hdrop⟩ := takeWhile_dropWhile_append (u := [']']) hinner
      fun c hc => Option.some.inj hc ▸ rfl
    rw [htake, hdrop]
    exact ⟨hne, rfl⟩

/-- The check of a path decides the grammar. -/
theorem isPath_iff {t : Text} : isPath t = true ↔ HasPathForm t := by
  rw [isPath, Bool.and_eq_true, Bool.not_eq_true', List.isEmpty_eq_false_iff]
  constructor
  · rintro ⟨hne, hrest⟩
    refine ⟨t.takeWhile isPathChar, t.dropWhile isPathChar,
      List.takeWhile_append_dropWhile.symm, hne, fun c => List.mem_takeWhile_imp, ?_⟩
    cases hd : t.dropWhile isPathChar with
    | nil => exact Or.inl rfl
    | cons c rest =>
        rw [hd] at hrest
        simp only [Bool.and_eq_true, beq_iff_eq, isSelection_iff] at hrest
        obtain ⟨rfl, inner, rfl, hinner⟩ := hrest
        exact Or.inr ⟨inner, rfl, hinner⟩
  · rintro ⟨front, selection, rfl, hne, hfront, rfl | ⟨inner, rfl, hinner⟩⟩
    · obtain ⟨htake, hdrop⟩ := takeWhile_dropWhile_append (u := []) hfront (by simp)
      rw [htake, hdrop]
      exact ⟨hne, rfl⟩
    · obtain ⟨htake, hdrop⟩ := takeWhile_dropWhile_append
        (u := CodePoint.char '[' :: inner ++ [CodePoint.char ']']) hfront
        fun c hc => Option.some.inj hc ▸ rfl
      rw [htake, hdrop]
      exact ⟨hne, by simpa using isSelection_iff.mpr ⟨inner, rfl, hinner⟩⟩

theorem check_eq_ok {entries paths : List Text} :
    check entries = .ok paths ↔ canonical entries = paths ∧ ∀ p ∈ paths, HasPathForm p := by
  rw [check]
  cases hbad : (canonical entries).find? fun e => !isPath e with
  | some bad =>
      have hmem := List.mem_of_find?_eq_some hbad
      have hno := List.find?_some hbad
      refine iff_of_false (by simp) ?_
      rintro ⟨rfl, hall⟩
      rw [isPath_iff.mpr (hall bad hmem)] at hno
      exact absurd hno (by simp)
  | none =>
      rw [List.find?_eq_none] at hbad
      simp only [Except.ok.injEq, iff_self_and]
      rintro rfl p hp
      exact isPath_iff.mp (by simpa using hbad p hp)

/-- Paths remain if and only if some entry is not blank. -/
theorem check_ne_nil {entries paths : List Text} (h : check entries = .ok paths) :
    paths ≠ [] ↔ ∃ e ∈ entries, Text.isAllBlank e = false := by
  obtain ⟨rfl, -⟩ := check_eq_ok.mp h
  simp [canonical, List.filter_eq_nil_iff]

/-- Accepting entries ends as checking them does, a rejection being the fault. -/
theorem outcome_accept (entries : List Text) :
    (accept entries).outcome = (check entries).mapError .rejected := by
  rw [accept, check]
  cases (canonical entries).find? fun e => !isPath e <;> rfl

theorem outcome_accept_eq_ok {entries paths : List Text} :
    (accept entries).outcome = .ok paths ↔ check entries = .ok paths := by
  rw [outcome_accept, Traced.mapError_eq_ok]

theorem warnsByOutcome_accept (entries : List Text) : (accept entries).WarnsByOutcome := by
  rw [accept]
  cases (canonical entries).find? fun e => !isPath e with
  | some bad => exact Traced.warnsByOutcome_warned rfl
  | none => exact Traced.warnsByOutcome_pure (canonical entries)

/-! ### Reading a list -/

/-- Text that belongs to the path at whose start it stands, whatever follows: reading passes over it
and leaves no selection open. -/
def IsPart (u : Text) : Prop :=
  ∀ t, readFrom false (u ++ t) = (readFrom false t).map fun ps => u.foldr consFirst ps

theorem IsPart.append {u v : Text} (hu : IsPart u) (hv : IsPart v) : IsPart (u ++ v) := by
  intro t
  rw [List.append_assoc, hu, hv, Option.map_map]
  simp only [Function.comp_def, List.foldr_append]

theorem isPart_nil : IsPart [] := by
  intro t
  simp

theorem isPart_pathChar {c : CodePoint} (hc : isPathChar c = true) : IsPart [c] := by
  intro t
  have hcomma : c ≠ ',' := by
    rintro rfl
    exact absurd hc (by decide)
  have hclosing : c ≠ ']' := by
    rintro rfl
    exact absurd hc (by decide)
  have hopening : (c == '[') = false := by
    rw [beq_eq_false_iff_ne]
    rintro rfl
    exact absurd hc (by decide)
  rw [List.singleton_append, readFrom, if_neg Bool.false_ne_true, if_neg hcomma, if_neg hclosing,
    hopening]
  rfl

theorem isPart_pathChars {u : Text} (h : ∀ c ∈ u, isPathChar c = true) : IsPart u := by
  induction u with
  | nil => exact isPart_nil
  | cons c u ih =>
      have hu := ih fun x hx => h x (List.mem_cons_of_mem c hx)
      exact (isPart_pathChar (h c List.mem_cons_self)).append hu

/-- Inside a selection, commas are passed over up to the bracket that closes it. -/
theorem readFrom_selection {inner : Text} (h : ∀ c ∈ inner, isSelectionChar c = true) (t : Text) :
    readFrom true (inner ++ .char ']' :: t) =
      (readFrom false t).map fun ps => (inner ++ [CodePoint.char ']']).foldr consFirst ps := by
  induction inner with
  | nil => rfl
  | cons c inner ih =>
      have hc : (c != ']') = true := by
        rw [bne_iff_ne]
        rintro rfl
        exact absurd (h _ List.mem_cons_self) (by decide)
      rw [List.cons_append, readFrom, if_pos rfl, hc,
        ih fun x hx => h x (List.mem_cons_of_mem c hx), Option.map_map]
      rfl

theorem isPart_of_hasSelectionForm {u : Text} (h : HasSelectionForm u) : IsPart u := by
  obtain ⟨inner, rfl, -, hinner⟩ := h
  intro t
  have hopen : readFrom false ('[' :: (inner ++ .char ']' :: t)) =
      (readFrom true (inner ++ .char ']' :: t)).map (consFirst '[') := rfl
  rw [List.append_assoc, List.cons_append, List.singleton_append, hopen,
    readFrom_selection hinner, Option.map_map]
  rfl

/-- Nothing in a path ends it. -/
theorem isPart_of_hasPathForm {p : Text} (h : HasPathForm p) : IsPart p := by
  obtain ⟨front, selection, rfl, -, hfront, rfl | hselection⟩ := h
  · rw [List.append_nil]
    exact isPart_pathChars hfront
  · exact (isPart_pathChars hfront).append (isPart_of_hasSelectionForm hselection)

theorem HasPathForm.ne_nil {p : Text} (h : HasPathForm p) : p ≠ [] := by
  obtain ⟨front, selection, rfl, hne, -⟩ := h
  exact List.append_ne_nil_of_left_ne_nil hne selection

theorem foldr_consFirst (u : Text) (ps : List Text) : u.foldr consFirst ([] :: ps) = u :: ps := by
  induction u with
  | nil => rfl
  | cons c u ih => rw [List.foldr_cons, ih, consFirst]

theorem readFrom_join {paths : List Text} (hne : paths ≠ []) (h : ∀ p ∈ paths, HasPathForm p) :
    readFrom false (Text.join [','] paths ++ [.char ']']) = some paths := by
  induction paths with
  | nil => exact absurd rfl hne
  | cons p paths ih =>
      have hp := isPart_of_hasPathForm (h p List.mem_cons_self)
      cases paths with
      | nil =>
          have hend : readFrom false [']'] = some [[]] := rfl
          rw [Text.join_singleton, hp, hend, Option.map_some, foldr_consFirst]
      | cons q qs =>
          have hrest := ih (List.cons_ne_nil q qs) fun x hx => h x (List.mem_cons_of_mem p hx)
          have hcomma (t : Text) :
              readFrom false (',' :: t) = (readFrom false t).map ([] :: ·) := rfl
          rw [Text.join_cons_cons, List.append_assoc, List.append_assoc, hp, List.singleton_append,
            hcomma, hrest, Option.map_some, Option.map_some, foldr_consFirst]

/-- Paths are read back from their list. -/
theorem read_render {paths : List Text} (h : ∀ p ∈ paths, HasPathForm p) :
    read (render paths) = some paths := by
  cases paths with
  | nil => rfl
  | cons p ps =>
      have hjoin := readFrom_join (List.cons_ne_nil p ps) h
      have hlist : render (p :: ps) = .char '[' :: (Text.join [','] (p :: ps) ++ [.char ']']) := rfl
      -- the list of no paths is no list of these, since the first of them is not empty
      have hne : .char '[' :: (Text.join [','] (p :: ps) ++ [CodePoint.char ']']) ≠
          "[]".toText := by
        intro hempty
        rw [(List.cons.inj hempty).2] at hjoin
        have hnil : [[]] = p :: ps := Option.some.inj hjoin
        exact (h p List.mem_cons_self).ne_nil (List.cons.inj hnil).1.symm
      rw [hlist, read, if_neg hne]
      exact hjoin

/-! ### Canonical entries -/

theorem isCanonical_of_mem_canonical {entries : List Text} {p : Text} (h : p ∈ canonical entries) :
    Field.IsCanonical p := by
  obtain ⟨e, he, rfl⟩ := List.mem_map.mp h
  have hdark : Text.isAllBlank e = false := by simpa using (List.mem_filter.mp he).2
  rw [Text.isAllBlank, List.all_eq_false] at hdark
  obtain ⟨c, hc, hb⟩ := hdark
  have hb' : Text.isBlank c = false := Bool.eq_false_iff.mpr hb
  exact Field.isCanonical_sanitize (Text.mem_strip hc hb') hb'

theorem canonical_eq_self {entries : List Text} (h : ∀ e ∈ entries, Field.IsCanonical e) :
    canonical entries = entries := by
  have hkept : ∀ e ∈ entries, (!Text.isAllBlank e) = true := by
    intro e he
    obtain ⟨c, t, rfl⟩ := List.exists_cons_of_ne_nil (h e he).1.1
    rw [Text.isAllBlank_eq_false List.mem_cons_self ((h _ he).1.2 c List.mem_cons_self)]
    rfl
  rw [canonical, List.filter_eq_self.mpr hkept]
  calc entries.map (fun e => Field.sanitize (Text.strip e))
      = entries.map id := List.map_congr_left fun e he => by
        rw [Text.strip_eq_self (h e he).1.isTrimmed, (h e he).2, id]
    _ = entries := List.map_id entries

/-- Paths that were accepted are accepted as they are. -/
theorem check_of_check {entries paths : List Text} (h : check entries = .ok paths) :
    check paths = .ok paths := by
  obtain ⟨rfl, hpaths⟩ := check_eq_ok.mp h
  exact check_eq_ok.mpr ⟨canonical_eq_self fun _ => isCanonical_of_mem_canonical, hpaths⟩

/-! ### Main statement -/

/-- **The list of paths is unambiguous and canonical.** What is made of accepted entries is read
back as the same paths, each of them whole, so that no other paths have that list. Accepted
paths, given as entries, are accepted unchanged. -/
theorem read_accepted {entries paths : List Text} (h : check entries = .ok paths) :
    read (render paths) = some paths ∧ check paths = .ok paths :=
  ⟨read_render (check_eq_ok.mp h).2, check_of_check h⟩

/-- Selections with commas, blanks inside and around the entries, and blank entries. -/
theorem read_accepted_nested :
    let entries := [" Project[Name, Program]".toText, "  ".toText, "Assigned\tUser".toText, [],
      "Bugs[Id,Owner.Name]\n".toText]
    let paths := ["Project[Name,Program]".toText, "AssignedUser".toText,
      "Bugs[Id,Owner.Name]".toText]
    check entries = .ok paths ∧ read (render paths) = some paths ∧ check paths = .ok paths := by
  intro entries paths
  have h : check entries = .ok paths := by decide
  exact ⟨h, read_accepted h⟩

/-! ### Entries that are admitted -/

/-- Holds of the entries that name a path: without its blanks, such an entry does not start with the
long spelling of a custom field and has the form of a path. -/
def IsAdmissible (e : Text) : Prop :=
  ¬Field.customField <+: Text.compact e ∧ HasPathForm (Text.compact e)

theorem HasPathForm.mem {p : Text} (h : HasPathForm p) {c : CodePoint} (hc : c ∈ p) :
    isSelectionChar c = true ∨ c = '[' ∨ c = ']' := by
  have hpath : isPathChar c = true → isSelectionChar c = true := fun h => by
    rw [isSelectionChar, h, Bool.true_or]
  obtain ⟨front, selection, rfl, -, hfront, rfl | ⟨inner, rfl, -, hinner⟩⟩ := h
  · rw [List.append_nil] at hc
    exact Or.inl (hpath (hfront c hc))
  · simp only [List.mem_append, List.mem_cons, List.not_mem_nil, or_false] at hc
    rcases hc with hc | (hc | hc) | hc
    · exact Or.inl (hpath (hfront c hc))
    · exact Or.inr (Or.inl hc)
    · exact Or.inl (hinner c hc)
    · exact Or.inr (Or.inr hc)

/-- The alias of a custom field has an underscore, which no path has. -/
theorem not_hasPathForm_customAlias (name : Text) : ¬HasPathForm (Field.customAlias ++ name) := by
  intro h
  have hmem : .char '_' ∈ Field.customAlias ++ name := List.mem_append_left name (by decide)
  exact absurd (h.mem hmem) (by decide)

theorem hasPathForm_sanitize_iff {e : Text} : HasPathForm (Field.sanitize e) ↔ IsAdmissible e := by
  rcases Field.sanitize_cases e with ⟨hs, hnone⟩ | ⟨name, hcompact, hs⟩
  · have hstart : ¬Field.customField <+: Text.compact e := by
      rintro ⟨name, hname⟩
      rw [Text.after?_eq_some_iff.mpr hname.symm] at hnone
      cases hnone
    rw [hs, IsAdmissible, and_iff_right hstart]
  · rw [hs]
    refine iff_of_false (not_hasPathForm_customAlias name) fun h => h.1 ?_
    exact ⟨name, hcompact.symm⟩

theorem IsAdmissible.sanitize_eq {e : Text} (h : IsAdmissible e) :
    Field.sanitize e = Text.compact e := by
  rcases Field.sanitize_cases e with ⟨hs, -⟩ | ⟨name, hcompact, -⟩
  · exact hs
  · exact absurd ⟨name, hcompact.symm⟩ h.1

theorem canonical_eq_map (entries : List Text) :
    canonical entries = (entries.filter fun e => !Text.isAllBlank e).map Field.sanitize := by
  simp only [canonical, Field.sanitize_strip]

theorem forall_hasPathForm_canonical_iff {entries : List Text} :
    (∀ p ∈ canonical entries, HasPathForm p) ↔
      ∀ e ∈ entries, Text.isAllBlank e = false → IsAdmissible e := by
  simp only [canonical_eq_map, List.forall_mem_map, List.mem_filter, Bool.not_eq_true', and_imp,
    hasPathForm_sanitize_iff]

/-- Admitted entries only lose their blanks. -/
theorem canonical_eq_compact {entries : List Text}
    (h : ∀ e ∈ entries, Text.isAllBlank e = false → IsAdmissible e) :
    canonical entries = (entries.filter fun e => !Text.isAllBlank e).map Text.compact := by
  rw [canonical_eq_map]
  refine List.map_congr_left fun e he => ?_
  obtain ⟨hmem, hdark⟩ := List.mem_filter.mp he
  exact (h e hmem (by simpa using hdark)).sanitize_eq

/-- Whether an entry is neither blank nor admissible. -/
def isOffender (e : Text) : Bool :=
  !Text.isAllBlank e && !isPath (Field.sanitize e)

theorem isOffender_iff {e : Text} :
    isOffender e = true ↔ Text.isAllBlank e = false ∧ ¬IsAdmissible e := by
  rw [isOffender, Bool.and_eq_true, Bool.not_eq_true', Bool.not_eq_true',
    ← Bool.not_eq_true (isPath _), isPath_iff, hasPathForm_sanitize_iff]

theorem not_isOffender_iff {e : Text} :
    isOffender e = false ↔ (Text.isAllBlank e = false → IsAdmissible e) := by
  rw [Bool.eq_false_iff, ne_eq, isOffender_iff, not_and_not_right]

theorem find?_canonical (entries : List Text) :
    (canonical entries).find? (fun e => !isPath e) =
      (entries.find? isOffender).map Field.sanitize := by
  rw [canonical_eq_map, List.find?_map, List.find?_filter]
  congr 2
  funext e
  simp [isOffender]

theorem check_eq_error {entries : List Text} {r : Rejection} :
    check entries = .error r ↔
      ∃ bad, entries.find? isOffender = some bad ∧ r = .badInclude (Field.sanitize bad) := by
  rw [check, find?_canonical]
  cases entries.find? isOffender <;> simp [eq_comm]

/-- **A list of entries is accepted exactly if each entry that is not blank names a path**, and then
the paths are these entries without their blanks, in order. Otherwise the first entry that names
none is reported, in its canonical form. -/
theorem check_decides (entries : List Text) :
    (∀ paths, check entries = .ok paths ↔
      (∀ e ∈ entries, Text.isAllBlank e = false → IsAdmissible e) ∧
        paths = (entries.filter fun e => !Text.isAllBlank e).map Text.compact) ∧
    ∀ r, check entries = .error r ↔
      ∃ before bad after, entries = before ++ bad :: after ∧
        (∀ e ∈ before, Text.isAllBlank e = false → IsAdmissible e) ∧
        (Text.isAllBlank bad = false ∧ ¬IsAdmissible bad) ∧
        r = .badInclude (Field.sanitize bad) := by
  constructor
  · intro paths
    rw [check_eq_ok]
    constructor
    · rintro ⟨rfl, hpaths⟩
      have hadmissible := forall_hasPathForm_canonical_iff.mp hpaths
      exact ⟨hadmissible, canonical_eq_compact hadmissible⟩
    · rintro ⟨hadmissible, rfl⟩
      rw [← canonical_eq_compact hadmissible]
      exact ⟨rfl, forall_hasPathForm_canonical_iff.mpr hadmissible⟩
  · intro r
    simp only [check_eq_error, List.find?_eq_some_iff_append, isOffender_iff, Bool.not_eq_true',
      not_isOffender_iff]
    constructor
    · rintro ⟨bad, ⟨hbad, before, after, rfl, hbefore⟩, rfl⟩
      exact ⟨before, bad, after, rfl, hbefore, hbad, rfl⟩
    · rintro ⟨before, bad, after, rfl, hbefore, hbad, rfl⟩
      exact ⟨bad, ⟨hbad, before, after, rfl, hbefore⟩, rfl⟩

/-- An entry with a selection is named without its blanks. Of a custom field whose long spelling
shows once the blanks are gone and an entry with a digit, the first one is reported, by its
alias. -/
theorem check_decides_alias :
    let selection := "Project[Name, Program]".toText
    let spaced := "Custom Field. Risk".toText
    check [selection, " \t".toText] = .ok ["Project[Name,Program]".toText] ∧
      IsAdmissible selection ∧
      check [selection, [], spaced, "Tasks2".toText] = .error (.badInclude "cf_Risk".toText) ∧
      ∃ e ∈ [selection, [], spaced, "Tasks2".toText],
        Text.isAllBlank e = false ∧ ¬IsAdmissible e := by
  intro selection spaced
  have haccepted : check [selection, " \t".toText] = .ok ["Project[Name,Program]".toText] := by
    decide
  have hrejected : check [selection, [], spaced, "Tasks2".toText] =
      .error (.badInclude "cf_Risk".toText) := by decide
  obtain ⟨hall, -⟩ := ((check_decides _).1 _).mp haccepted
  obtain ⟨before, bad, after, hentries, -, hbad, -⟩ := ((check_decides _).2 _).mp hrejected
  refine ⟨haccepted, hall selection List.mem_cons_self (by decide), hrejected, bad, ?_, hbad⟩
  rw [hentries]
  exact List.mem_append_right before List.mem_cons_self

end TrackerQuery.Include
