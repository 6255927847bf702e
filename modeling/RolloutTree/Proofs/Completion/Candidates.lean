import RolloutTree.Completion.Candidates

/-!
# Candidates and what has been typed

Every candidate begins with what has been typed. Behind the first slash of a text a name is
completed, and its type is kept; without a slash the names of the kind are completed, and after them
comes the type that is offered for it. Typing more of a name asks for nothing new: the candidates
that are left are those that begin with all that has been typed.

A lister gives its names in one text. They are the parts between the spaces, and empty parts, which
stand between spaces in a row and at both ends, are no names.

## Main definitions

* `Gives`: the names that a lister gives in its answer.

## Main results

* `gives_iff`: an answer gives its names and no others.
* `complete_start`, `complete_qualified`: the candidates for a text without a slash and with one.
* `complete_follows_typing`: what is completed, and how it goes on when more is typed.
-/

namespace RolloutTree.Completion

/-! ### The names in an answer -/

/-- The names that a lister gives in its answer. A text is taken apart at its spaces, and its
non-empty parts are the names; without an answer there are none. -/
inductive Gives : Option String → List String → Prop
  | listed {parts : List String} (h : ∀ part ∈ parts, ' ' ∉ part.toList) :
    Gives (some (" ".intercalate parts)) (parts.filter (· ≠ ""))
  | failed : Gives none []

/-- The names in parts with spaces between them are the parts that are not empty. -/
theorem names_intercalate {parts : List String} (h : ∀ part ∈ parts, ' ' ∉ part.toList) :
    names (" ".intercalate parts) = parts.filter (· ≠ "") := by
  by_cases hnil : parts = []
  · subst hnil
    rfl
  have hpieces : Text.pieces ' ' (" ".intercalate parts).toList = parts.map String.toList := by
    rw [Text.pieces_eq_splitOn, String.toList_intercalate]
    exact List.splitOn_intercalate ' ' (List.forall_mem_map.mpr h) (by simpa using hnil)
  have hempty : ((!·.isEmpty) ∘ String.toList : String → Bool) = (· ≠ "") := by
    funext part
    rw [Function.comp_apply, Bool.eq_iff_iff]
    simp
  rw [names, hpieces, List.filter_map, List.map_map, hempty]
  simp [Function.comp_def]

/-- Every text is made of parts with spaces between them. -/
theorem exists_intercalate (text : String) :
    ∃ parts : List String, (∀ part ∈ parts, ' ' ∉ part.toList) ∧
      " ".intercalate parts = text := by
  refine ⟨(Text.pieces ' ' text.toList).map String.ofList, ?_, ?_⟩
  · refine List.forall_mem_map.mpr fun piece hpiece => ?_
    rw [String.toList_ofList]
    exact Text.not_mem_of_mem_pieces piece hpiece
  · have htext := Text.intercalate_pieces ' ' text.toList
    rw [← String.toList_inj, String.toList_intercalate, List.map_map]
    simpa [Function.comp_def] using htext

/-- An answer gives its names and no others. -/
theorem gives_iff {answer : Option String} {found : List String} :
    Gives answer found ↔ names (answer.getD "") = found := by
  constructor
  · rintro (⟨h⟩ | _)
    · exact names_intercalate h
    · rfl
  · rintro rfl
    cases answer with
    | none => exact .failed
    | some text =>
      obtain ⟨parts, hparts, rfl⟩ := exists_intercalate text
      rw [Option.getD_some, names_intercalate hparts]
      exact .listed hparts

/-! ### The start of a text -/

theorem startsWith_eq_decide (text start : String) :
    startsWith text start = decide (start.toList <+: text.toList) := by
  rw [startsWith, Bool.eq_iff_iff, List.isPrefixOf_iff_prefix, decide_eq_true_iff]

theorem startsWith_append_left (type text start : String) :
    startsWith (type ++ text) (type ++ start) = startsWith text start := by
  simp [startsWith_eq_decide]

/-- What begins with a longer text begins with its start. -/
theorem startsWith_of_append {text start more : String}
    (h : startsWith text (start ++ more) = true) : startsWith text start = true := by
  rw [startsWith_eq_decide, decide_eq_true_iff] at h ⊢
  rw [String.toList_append] at h
  exact (List.prefix_append _ _).trans h

/-- A slash at the end of a text is not missed by what has none. -/
theorem startsWith_append_slash (type : String) {start : String} (h : '/' ∉ start.toList) :
    startsWith (type ++ "/") start = startsWith type start := by
  have hslash : "/".toList = ['/'] := rfl
  rw [startsWith_eq_decide, startsWith_eq_decide, String.toList_append, hslash, decide_eq_decide,
    List.prefix_concat_iff]
  refine or_iff_right fun heq => h ?_
  rw [heq]
  simp

/-! ### What is completed -/

theorem Typed.parse_start {text : String} (h : '/' ∉ text.toList) :
    Typed.parse text = .start text := by
  rw [parse, Text.cut?_eq_none_iff.mpr h]

theorem Typed.parse_qualified {type : String} (h : '/' ∉ type.toList) (start : String) :
    Typed.parse (type ++ "/" ++ start) = .qualified type start := by
  have hcut : Text.cut? '/' (type ++ "/" ++ start) = some (type, start) := Text.cut?_append h start
  rw [parse, hcut]

/-- A text has no slash, or it is a type with a slash and the start of a name behind it. -/
theorem exists_qualified {text : String} (h : '/' ∈ text.toList) :
    ∃ type start, text = type ++ "/" ++ start ∧ '/' ∉ type.toList := by
  cases hcut : Text.cut? '/' text with
  | none => exact absurd h (Text.cut?_eq_none_iff.mp hcut)
  | some parts =>
    refine ⟨parts.1, parts.2, ?_, Text.not_mem_of_cut? hcut⟩
    rw [← String.toList_inj, Text.toList_of_cut? hcut]
    simp

variable (lister : NameQuery → Option String) (place : Option String) (kind : String)

/-- The candidates for a text without a slash: names, and then a type. -/
theorem complete_start {text : String} (h : '/' ∉ text.toList) :
    complete lister place kind text =
      { candidates := (names ((lister { kind, place }).getD "")).filter (startsWith · text) ++
          ((offers kind).filter (startsWith · text)).map (· ++ "/")
        directive :=
          { noFiles := true
            noSpace := ((names ((lister { kind, place }).getD "")).filter
              (startsWith · text)).isEmpty } } := by
  rw [complete, query, Typed.parse_start h]

/-- The candidates for a text with a slash: names behind their type. -/
theorem complete_qualified {type : String} (h : '/' ∉ type.toList) (start : String) :
    complete lister place kind (type ++ "/" ++ start) =
      { candidates := ((names ((lister { kind := type, place }).getD "")).filter
          (startsWith · start)).map (type ++ "/" ++ ·)
        directive := { noFiles := true } } := by
  rw [complete, query, Typed.parse_qualified h]

/-- Names that begin with a longer text are found among those that begin with its start. -/
theorem filter_startsWith_append (found : List String) (start more : String) :
    (found.filter (startsWith · start)).filter (startsWith · (start ++ more)) =
      found.filter (startsWith · (start ++ more)) := by
  rw [List.filter_filter]
  refine List.filter_congr fun name _ => ?_
  cases h : startsWith name (start ++ more) with
  | false => rw [Bool.false_and]
  | true => rw [startsWith_of_append h, Bool.and_true]

/-- Every candidate begins with what has been typed. -/
theorem startsWith_of_mem_candidates {text candidate : String}
    (h : candidate ∈ (complete lister place kind text).candidates) :
    startsWith candidate text = true := by
  by_cases hslash : '/' ∈ text.toList
  · obtain ⟨type, start, rfl, htype⟩ := exists_qualified hslash
    rw [complete_qualified lister place kind htype, List.mem_map] at h
    obtain ⟨name, hname, rfl⟩ := h
    rw [startsWith_append_left]
    exact (List.mem_filter.mp hname).2
  · rw [complete_start lister place kind hslash, List.mem_append, List.mem_map] at h
    rcases h with hname | ⟨type, htype, rfl⟩
    · exact (List.mem_filter.mp hname).2
    · rw [startsWith_append_slash type hslash]
      exact (List.mem_filter.mp htype).2

/-- When more is typed, but no slash, the candidates are left that begin with all of it. -/
theorem candidates_append (text : String) {more : String} (h : '/' ∉ more.toList) :
    (complete lister place kind (text ++ more)).candidates =
      (complete lister place kind text).candidates.filter (startsWith · (text ++ more)) := by
  by_cases hslash : '/' ∈ text.toList
  · -- what is typed comes behind the slash, so that the lister is asked for the same type
    obtain ⟨type, start, rfl, htype⟩ := exists_qualified hslash
    have hmore : type ++ "/" ++ start ++ more = type ++ "/" ++ (start ++ more) :=
      String.append_assoc
    rw [hmore, complete_qualified lister place kind htype,
      complete_qualified lister place kind htype, List.filter_map]
    simp only [Function.comp_def, startsWith_append_left, filter_startsWith_append]
  · have htext : '/' ∉ (text ++ more).toList := by
      rw [String.toList_append, List.mem_append]
      exact not_or_intro hslash h
    rw [complete_start lister place kind hslash, complete_start lister place kind htext,
      List.filter_append, List.filter_map]
    simp only [Function.comp_def, startsWith_append_slash _ htext, filter_startsWith_append]

/-- File names are never candidates, and no error is told. -/
theorem flags_complete (text : String) :
    (complete lister place kind text).directive.noFiles = true ∧
      (complete lister place kind text).directive.isError = false := by
  rw [complete]
  split <;> exact ⟨rfl, rfl⟩

/-- A lister that fails is as good as one that gives an empty text. -/
theorem complete_getD (text : String) :
    complete (fun q => some ((lister q).getD "")) place kind text =
      complete lister place kind text := rfl

/-- **What is completed follows what is typed.** Take any lister, with the names that it gives.

* Without a slash in the text the candidates are the names of the kind that begin with the text, in
  their order and as often as they are given, and then the type that is offered for the kind, with
  a slash, if it begins with the text. The shell is told to put no space exactly if no name fits.
* With a slash, the type is what stands in front of the first one. The candidates are the names of
  that type that begin with what stands behind it, with the type and the slash before each; the
  shell is not told to put no space.
* File names are no candidates and no error is told, and a lister that fails is as good as one that
  gives an empty text.
* Every candidate begins with the text.
* When more is typed, but no slash, the candidates are left that begin with all of it. -/
theorem complete_follows_typing (text : String) :
    ('/' ∉ text.toList → ∃ found, Gives (lister { kind, place }) found ∧
      (complete lister place kind text).candidates =
        found.filter (text.toList <+: ·.toList) ++
          ((offers kind).filter (text.toList <+: ·.toList)).map (· ++ "/") ∧
      ((complete lister place kind text).directive.noSpace = true ↔
        ∀ name ∈ found, ¬ text.toList <+: name.toList)) ∧
    ('/' ∈ text.toList → ∃ type start found, text = type ++ "/" ++ start ∧ '/' ∉ type.toList ∧
      Gives (lister { kind := type, place }) found ∧
      (complete lister place kind text).candidates =
        (found.filter (start.toList <+: ·.toList)).map (type ++ "/" ++ ·) ∧
      (complete lister place kind text).directive.noSpace = false) ∧
    ((complete lister place kind text).directive.noFiles = true ∧
      (complete lister place kind text).directive.isError = false ∧
      complete (fun q => some ((lister q).getD "")) place kind text =
        complete lister place kind text) ∧
    (∀ candidate ∈ (complete lister place kind text).candidates,
      text.toList <+: candidate.toList) ∧
    ∀ more : String, '/' ∉ more.toList →
      (complete lister place kind (text ++ more)).candidates =
        (complete lister place kind text).candidates.filter
          ((text ++ more).toList <+: ·.toList) := by
  have hstarts (text start : String) :
      start.toList <+: text.toList ↔ startsWith text start = true := by
    rw [startsWith_eq_decide, decide_eq_true_iff]
  simp only [hstarts, Bool.decide_eq_true]
  refine ⟨fun h => ?_, ?_, ?_, fun _ => startsWith_of_mem_candidates lister place kind,
    fun more => candidates_append lister place kind text⟩
  · rw [complete_start lister place kind h]
    refine ⟨_, gives_iff.mpr rfl, rfl, ?_⟩
    rw [List.isEmpty_iff, List.filter_eq_nil_iff]
  · intro h
    obtain ⟨type, start, rfl, htype⟩ := exists_qualified h
    rw [complete_qualified lister place kind htype]
    exact ⟨type, start, _, rfl, htype, gives_iff.mpr rfl, rfl, rfl⟩
  · obtain ⟨hfiles, herror⟩ := flags_complete lister place kind text
    exact ⟨hfiles, herror, complete_getD lister place kind text⟩

/-- A name that is given twice is a candidate twice, and spaces in a row are no name. -/
example :
    complete (fun q => if q.kind = "rollouts" then some " shop  web shop-2 shop" else none) none
      "rollout" "rollouts/sh" =
      { candidates := ["rollouts/shop", "rollouts/shop-2", "rollouts/shop"]
        directive := { noFiles := true } } := by
  decide

end RolloutTree.Completion
