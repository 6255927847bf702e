import RolloutTree.Text.Escape

/-!
# Escape sequences across the seams of a text

A text is often put together from parts. A reader who has finished one part stands between
sequences, right after an `ESC`, or inside a sequence that the part has not ended. Only in the last
case is the start of the next part hidden, and after an `ESC` it matters whether the next part
starts with `[`. In all other cases what is shown of the whole is what is shown of its parts.

## Main definitions

* `IsUnterminated`: the text ends inside a sequence that `ESC [` has started.

## Main results

* `isUnterminated_iff`: such a text, taken apart.
* `strip_append`: what is shown of two parts.
* `strip_append_spaces`, `strip_append_separator`: what is shown of two parts with spaces or a
  separator between them.
* `strip_intercalate`: what is shown of parts that are joined by a separator.
* `strip_graphic`, `strip_graphic_of_isUnterminated`: display attributes around a text are not
  shown, unless the text ends inside a sequence.
-/

namespace RolloutTree.Escape

/-- The text ends inside a sequence that `ESC [` has started. -/
def IsUnterminated (s : String) : Prop := Scan.text.run s.toList = .control

instance (s : String) : Decidable (IsUnterminated s) :=
  inferInstanceAs (Decidable (_ = _))

/-! ### Where a reader stands -/

theorem Scan.next_eq_escape_iff {s : Scan} {c : Char} :
    s.next c = .escape ↔ s ≠ .control ∧ c = esc := by
  cases s with
  | text => simp [next]
  | escape =>
    by_cases hc : c = '['
    · subst hc
      decide
    · simp [next, hc]
  | control =>
    by_cases hc : isFinal c = true <;> simp [next, hc]

theorem Scan.next_eq_control_iff {s : Scan} {c : Char} :
    s.next c = .control ↔ s = .escape ∧ c = '[' ∨ s = .control ∧ isFinal c = false := by
  cases s with
  | text =>
    by_cases hc : c = esc <;> simp [next, hc]
  | escape =>
    by_cases hc : c = '['
    · simp [next, hc]
    · by_cases hesc : c = esc <;> simp [next, hc, hesc]
  | control =>
    by_cases hc : isFinal c = true <;> simp [next, hc]

theorem Scan.run_concat (s : Scan) (cs : List Char) (c : Char) :
    s.run (cs ++ [c]) = (s.run cs).next c := by
  rw [run_append, run_cons, run_nil]

/-- Inside a sequence the reader stays there until a character ends it. -/
theorem Scan.run_control : (cs : List Char) → (∀ c ∈ cs, isFinal c = false) →
    Scan.control.run cs = .control
  | [], _ => rfl
  | c :: cs, h => by
    obtain ⟨hc, hcs⟩ := List.forall_mem_cons.mp h
    rw [run_cons, next_eq_control_iff.mpr (.inr ⟨rfl, hc⟩), run_control cs hcs]

/-- A reader inside a sequence has met its `ESC [` when it was not yet inside one, and since then no
character that ends it. -/
theorem Scan.exists_of_run_eq_control : (cs : List Char) → Scan.text.run cs.reverse = .control →
    ∃ before parameters, cs.reverse = before ++ esc :: '[' :: parameters ∧
      Scan.text.run before ≠ .control ∧ ∀ c ∈ parameters, isFinal c = false
  | [], h => nomatch h
  | c :: cs, h => by
    rw [List.reverse_cons, run_concat, next_eq_control_iff] at h
    rcases h with ⟨hescape, rfl⟩ | ⟨hcontrol, hc⟩
    · cases cs with
      | nil => exact nomatch hescape
      | cons b cs =>
        rw [List.reverse_cons, run_concat, next_eq_escape_iff] at hescape
        obtain ⟨hbefore, rfl⟩ := hescape
        exact ⟨cs.reverse, [], by simp, hbefore, nofun⟩
    · obtain ⟨before, parameters, heq, hbefore, hparameters⟩ := exists_of_run_eq_control cs hcontrol
      refine ⟨before, parameters ++ [c], by simp [heq], hbefore, fun d hd => ?_⟩
      rcases List.mem_append.mp hd with hmem | hmem
      · exact hparameters d hmem
      · rwa [List.mem_singleton.mp hmem]

/-- A text that ends inside a sequence is one that does not, then `ESC [`, and then characters none
of which ends a sequence. -/
theorem isUnterminated_iff {s : String} : IsUnterminated s ↔
    ∃ before parameters : String, s = before ++ "\x1b[" ++ parameters ∧ ¬ IsUnterminated before ∧
      ∀ c ∈ parameters.toList, isFinal c = false := by
  constructor
  · intro h
    obtain ⟨before, parameters, heq, hbefore, hparameters⟩ :=
      Scan.exists_of_run_eq_control s.toList.reverse (by rwa [List.reverse_reverse])
    rw [List.reverse_reverse] at heq
    refine ⟨String.ofList before, String.ofList parameters, ?_, ?_, ?_⟩
    · rw [← String.toList_inj, heq]
      simp [esc]
    · rwa [IsUnterminated, String.toList_ofList]
    · rwa [String.toList_ofList]
  · rintro ⟨before, parameters, rfl, hbefore, hparameters⟩
    have hseq : (Scan.text.run before.toList).run ['\x1b', '['] = .control := by
      unfold IsUnterminated at hbefore
      cases hs : Scan.text.run before.toList with
      | text => decide
      | escape => decide
      | control => exact absurd hs hbefore
    simp only [IsUnterminated, String.toList_append, Scan.run_append]
    exact (congrArg (Scan.run · _) hseq).trans (Scan.run_control _ hparameters)

/-! ### What is shown -/

/-- Right after an `ESC` everything but `[` is shown as it is between sequences. -/
theorem stripFrom_escape {cs : List Char} (h : cs.head? ≠ some '[') :
    stripFrom .escape cs = stripFrom .text cs := by
  cases cs with
  | nil => rfl
  | cons c cs =>
    have hc : c ≠ '[' := fun heq => h (congrArg some heq)
    by_cases hesc : c = esc
    · rw [hesc]
      rfl
    · simp [stripFrom, Scan.shows, Scan.next, hc, hesc]

/-- What is shown of two parts, if the first ends no sequence too late and the second cannot be
taken for the rest of one. -/
theorem strip_append {a b : String} (ha : ¬ IsUnterminated a) (hb : b.toList.head? ≠ some '[') :
    strip (a ++ b) = strip a ++ strip b := by
  have hrest : stripFrom (Scan.text.run a.toList) b.toList = stripFrom .text b.toList := by
    unfold IsUnterminated at ha
    cases hs : Scan.text.run a.toList with
    | text => rfl
    | escape => exact stripFrom_escape hb
    | control => exact absurd hs ha
  rw [strip, String.toList_append, stripFrom_append, hrest, String.ofList_append]
  rfl

theorem Scan.run_spaces : (count : Nat) → Scan.text.run (List.replicate count ' ') = .text
  | 0 => rfl
  | count + 1 => run_spaces count

theorem stripFrom_spaces : (count : Nat) →
    stripFrom .text (List.replicate count ' ') = List.replicate count ' '
  | 0 => rfl
  | count + 1 => congrArg (' ' :: ·) (stripFrom_spaces count)

/-- Spaces are shown, and what follows them is shown as it is alone. -/
theorem strip_append_spaces {a : String} (ha : ¬ IsUnterminated a) {count : Nat}
    (hcount : 0 < count) (b : String) :
    strip (a ++ (String.ofList (List.replicate count ' ') ++ b)) =
      strip a ++ (String.ofList (List.replicate count ' ') ++ strip b) := by
  have hhead : (String.ofList (List.replicate count ' ') ++ b).toList.head? ≠ some '[' := by
    obtain ⟨count, rfl⟩ := Nat.exists_eq_add_of_lt hcount
    simp [List.replicate_succ]
  have hspaces : strip (String.ofList (List.replicate count ' ') ++ b) =
      String.ofList (List.replicate count ' ') ++ strip b := by
    rw [strip, String.toList_append, String.toList_ofList, stripFrom_append, Scan.run_spaces,
      stripFrom_spaces, String.ofList_append]
    rfl
  rw [strip_append ha hhead, hspaces]

/-! ### Texts put together -/

/-- Outside a sequence, a character that can neither start one nor go on with its start is shown,
and leaves the reader between sequences. -/
theorem Scan.next_separator {s : Scan} {c : Char} (hs : s ≠ .control) (hbracket : c ≠ '[')
    (hesc : c ≠ esc) : s.next c = .text ∧ s.shows c = true := by
  cases s with
  | text => simp [next, shows, hesc]
  | escape => simp [next, shows, hbracket, hesc]
  | control => exact absurd rfl hs

/-- A separator is shown, and what follows it is shown as it is alone. -/
theorem strip_append_separator {a : String} (ha : ¬ IsUnterminated a) {c : Char}
    (hbracket : c ≠ '[') (hesc : c ≠ esc) (b : String) :
    strip (a ++ String.singleton c ++ b) = strip a ++ String.singleton c ++ strip b := by
  obtain ⟨hnext, hshows⟩ := Scan.next_separator ha hbracket hesc
  rw [← String.toList_inj]
  simp only [strip, String.toList_append, String.toList_singleton, String.toList_ofList,
    List.append_assoc, List.singleton_append, stripFrom_append, stripFrom, hnext, hshows,
    ↓reduceIte]

/-- Behind a separator a text ends where it ends alone. -/
theorem isUnterminated_append_separator {a : String} (ha : ¬ IsUnterminated a) {c : Char}
    (hbracket : c ≠ '[') (hesc : c ≠ esc) (b : String) :
    IsUnterminated (a ++ String.singleton c ++ b) ↔ IsUnterminated b := by
  obtain ⟨hnext, -⟩ := Scan.next_separator ha hbracket hesc
  simp only [IsUnterminated, String.toList_append, String.toList_singleton, List.append_assoc,
    List.singleton_append, Scan.run_append, Scan.run_cons, hnext]

/-- Of texts that are joined by a separator each is shown as it is alone. -/
theorem strip_intercalate {c : Char} (hbracket : c ≠ '[') (hesc : c ≠ esc) :
    (texts : List String) → (∀ text ∈ texts, ¬ IsUnterminated text) →
    strip ((String.singleton c).intercalate texts) =
      (String.singleton c).intercalate (texts.map strip)
  | [], _ => by
    rw [List.map_nil, String.intercalate_nil]
    rfl
  | [text], _ => by
    rw [List.map_singleton, String.intercalate_singleton, String.intercalate_singleton]
  | text :: next :: texts, h => by
    obtain ⟨htext, hnext⟩ := List.forall_mem_cons.mp h
    rw [String.intercalate_cons_cons, strip_append_separator htext hbracket hesc,
      strip_intercalate hbracket hesc (next :: texts) hnext]
    exact String.intercalate_cons_cons.symm

theorem not_isUnterminated_intercalate {c : Char} (hbracket : c ≠ '[') (hesc : c ≠ esc) :
    (texts : List String) → (∀ text ∈ texts, ¬ IsUnterminated text) →
    ¬ IsUnterminated ((String.singleton c).intercalate texts)
  | [], _ => by
    rw [String.intercalate_nil]
    decide
  | [text], h => by
    rw [String.intercalate_singleton]
    exact h text List.mem_cons_self
  | text :: next :: texts, h => by
    obtain ⟨htext, hnext⟩ := List.forall_mem_cons.mp h
    rw [String.intercalate_cons_cons, isUnterminated_append_separator htext hbracket hesc]
    exact not_isUnterminated_intercalate hbracket hesc (next :: texts) hnext

/-- A reader who meets no `ESC` stays between sequences. -/
theorem Scan.run_text : (cs : List Char) → (∀ c ∈ cs, c ≠ esc) → Scan.text.run cs = .text
  | [], _ => rfl
  | c :: cs, h => by
    obtain ⟨hc, hcs⟩ := List.forall_mem_cons.mp h
    rw [run_cons, next, if_neg hc, run_text cs hcs]

/-- What is shown of a text is found in it in the same order. -/
theorem stripFrom_sublist (s : Scan) (cs : List Char) : (stripFrom s cs).Sublist cs := by
  induction cs generalizing s with
  | nil => exact List.Sublist.refl []
  | cons c cs ih =>
    rw [stripFrom]
    split
    · exact (ih _).cons_cons c
    · exact (ih _).cons c

/-! ### Display attributes -/

/-- What stands in texts and between them stands in the whole. -/
theorem forall_mem_intercalate {P : Char → Prop} {separator : String}
    (hseparator : ∀ c ∈ separator.toList, P c) : (texts : List String) →
    (∀ text ∈ texts, ∀ c ∈ text.toList, P c) → ∀ c ∈ (separator.intercalate texts).toList, P c
  | [], _ => by
    rw [String.intercalate_nil]
    exact nofun
  | [text], h => by
    rw [String.intercalate_singleton]
    exact h text List.mem_cons_self
  | text :: next :: texts, h => by
    obtain ⟨htext, hnext⟩ := List.forall_mem_cons.mp h
    intro c hc
    rw [String.intercalate_cons_cons, String.toList_append, String.toList_append,
      List.mem_append, List.mem_append] at hc
    rcases hc with (hc | hc) | hc
    · exact htext c hc
    · exact hseparator c hc
    · exact forall_mem_intercalate hseparator (next :: texts) hnext c hc

theorem isFinal_eq_false_of_isDigit {c : Char} (h : c.isDigit = true) : isFinal c = false := by
  have hle : c ≤ '9' := by
    simp only [Char.isDigit, Bool.and_eq_true, decide_eq_true_iff] at h
    exact h.2
  have hlt : ¬ '@' ≤ c := fun hge => absurd (Char.le_trans hge hle) (by decide)
  simp [isFinal, hlt]

/-- The numbers of attributes do not end the sequence that sets them. -/
theorem isFinal_eq_false_of_mem_codes (codes : List Nat) :
    ∀ c ∈ (";".intercalate (codes.map toString)).toList, isFinal c = false := by
  refine forall_mem_intercalate ?_ _ (List.forall_mem_map.mpr fun code _ c hc => ?_)
  · intro c hc
    obtain rfl : c = ';' := List.mem_singleton.mp hc
    rfl
  · have hdigit : c ∈ Nat.toDigits 10 code := Nat.toList_repr ▸ hc
    exact isFinal_eq_false_of_isDigit (Nat.isDigit_of_mem_toDigits (by decide) (by decide) hdigit)

theorem toList_attributes (codes : List Nat) : (attributes codes).toList =
    [esc, '['] ++ (";".intercalate (codes.map toString)).toList ++ ['m'] := by
  rw [attributes, String.toList_append, String.toList_append]
  rfl

theorem Scan.run_start {s : Scan} (hs : s ≠ .control) : s.run [esc, '['] = .control := by
  cases s with
  | text => rfl
  | escape => rfl
  | control => exact absurd rfl hs

/-- Attributes that are set outside a sequence leave the reader between sequences. -/
theorem Scan.run_attributes {s : Scan} (hs : s ≠ .control) (codes : List Nat) :
    s.run (attributes codes).toList = .text := by
  rw [toList_attributes, run_append, run_append, run_start hs,
    run_control _ (isFinal_eq_false_of_mem_codes codes)]
  rfl

theorem stripFrom_control : (cs : List Char) → (∀ c ∈ cs, isFinal c = false) →
    stripFrom .control cs = []
  | [], _ => rfl
  | c :: cs, h => by
    obtain ⟨hc, hcs⟩ := List.forall_mem_cons.mp h
    have hnext : Scan.control.next c = .control := Scan.next_eq_control_iff.mpr (.inr ⟨rfl, hc⟩)
    rw [stripFrom, hnext, stripFrom_control cs hcs]
    rfl

/-- Attributes that are set outside a sequence are not shown. -/
theorem stripFrom_attributes {s : Scan} (hs : s ≠ .control) (codes : List Nat) :
    stripFrom s (attributes codes).toList = [] := by
  have hstart : stripFrom s [esc, '['] = [] := by
    cases s with
    | text => rfl
    | escape => rfl
    | control => exact absurd rfl hs
  have hcodes := isFinal_eq_false_of_mem_codes codes
  rw [toList_attributes, stripFrom_append, stripFrom_append, Scan.run_append, Scan.run_start hs,
    Scan.run_control _ hcodes, stripFrom_control _ hcodes, hstart]
  rfl

/-- Attributes around a text are not shown. -/
theorem strip_graphic {text : String} (h : ¬ IsUnterminated text) (codes : List Nat) :
    strip (graphic codes text) = strip text := by
  have htext : Scan.text ≠ .control := nofun
  simp only [strip, graphic, String.toList_append, stripFrom_append, Scan.run_append,
    Scan.run_attributes htext, stripFrom_attributes htext, stripFrom_attributes h, List.nil_append,
    List.append_nil]

/-- A text that ends inside a sequence takes the `[` of the reset for the end of it, so that the
rest of the reset is shown. -/
theorem strip_graphic_of_isUnterminated {text : String} (h : IsUnterminated text)
    (codes : List Nat) : strip (graphic codes text) = strip text ++ "0m" := by
  have htext : Scan.text ≠ .control := nofun
  have hend : Scan.text.run text.toList = .control := h
  have hreset : stripFrom .control (attributes [0]).toList = "0m".toList := by decide
  rw [← String.toList_inj, String.toList_append]
  simp only [strip, graphic, String.toList_append, String.toList_ofList, stripFrom_append,
    Scan.run_append, Scan.run_attributes htext, stripFrom_attributes htext, hend, hreset,
    List.nil_append]

theorem not_isUnterminated_graphic {text : String} (h : ¬ IsUnterminated text)
    (codes : List Nat) : ¬ IsUnterminated (graphic codes text) := by
  have htext : Scan.text ≠ .control := nofun
  rw [IsUnterminated, graphic, String.toList_append, String.toList_append, Scan.run_append,
    Scan.run_append, Scan.run_attributes htext, Scan.run_attributes h]
  exact htext

end RolloutTree.Escape
