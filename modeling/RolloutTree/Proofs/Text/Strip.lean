import RolloutTree.Proofs.Text.Escape

/-!
# What is left of a text without its escape sequences

Where a text may be cut depends on where the reader of the first part stands. Between sequences
any text may follow. Right after an `ESC` the two parts can be read apart if the second does not go
on with `[`, which would make a sequence of the two. Inside a sequence the start of the second part
belongs to it.

What is left of a text are characters of the text in their order, none of which is an `ESC`. A text
without an `ESC` is left as it is, so that there is nothing to do a second time.

## Main definitions

* `EndsInEscape`: the text ends right after an `ESC` that has not started a sequence.

## Main results

* `endsInEscape_iff`: such a text, taken apart.
* `strip_sequence`: nothing is left of a sequence, whether it is ended or not.
* `esc_not_mem_strip`, `strip_eq_self_iff`: no `ESC` is left, and nothing else goes if there is
  none.
* `strip_removes_escapes`: what is left of a text, and of two texts in one.
-/

namespace RolloutTree.Escape

variable {a s parameters : String}

/-- The text ends right after an `ESC` that has not started a sequence. -/
def EndsInEscape (s : String) : Prop := Scan.text.run s.toList = .escape

instance (s : String) : Decidable (EndsInEscape s) :=
  inferInstanceAs (Decidable (_ = _))

/-- A text that ends right after an `ESC` has it behind a text that does not end inside a
sequence. -/
theorem endsInEscape_iff :
    EndsInEscape s ↔ ∃ before : String, s = before ++ "\x1b" ∧ ¬IsUnterminated before := by
  constructor
  · intro h
    unfold EndsInEscape at h
    rcases List.eq_nil_or_concat s.toList with hnil | ⟨before, c, hconcat⟩
    · rw [hnil] at h
      exact nomatch h
    · rw [List.concat_eq_append] at hconcat
      rw [hconcat, Scan.run_concat, Scan.next_eq_escape_iff] at h
      obtain ⟨hbefore, rfl⟩ := h
      refine ⟨String.ofList before, ?_, by rwa [IsUnterminated, String.toList_ofList]⟩
      rw [← String.toList_inj, hconcat]
      simp [esc]
  · rintro ⟨before, rfl, hbefore⟩
    rw [EndsInEscape, String.toList_append]
    exact (Scan.run_concat _ _ _).trans (Scan.next_eq_escape_iff.mpr ⟨hbefore, rfl⟩)

/-! ### Sequences -/

/-- What follows a text that ends between sequences is shown as it is alone. -/
theorem strip_append_of_text (h : Scan.text.run a.toList = .text) (b : String) :
    strip (a ++ b) = strip a ++ strip b := by
  rw [strip, String.toList_append, stripFrom_append, h, String.ofList_append]
  rfl

/-- What follows `ESC [` is read as the rest of a sequence. -/
theorem strip_start (rest : String) :
    strip ("\x1b[" ++ rest) = String.ofList (stripFrom .control rest.toList) := by
  rw [strip, String.toList_append]
  rfl

/-- Nothing is shown of a sequence, whether it is ended or not. -/
theorem strip_sequence (hparameters : ∀ c ∈ parameters.toList, isFinal c = false) :
    strip ("\x1b[" ++ parameters) = "" ∧
      ∀ c, isFinal c = true → strip ("\x1b[" ++ (parameters ++ String.singleton c)) = "" := by
  refine ⟨by rw [strip_start, stripFrom_control _ hparameters], fun c hc => ?_⟩
  rw [strip_start, String.toList_append, String.toList_singleton, stripFrom_append,
    stripFrom_control _ hparameters, Scan.run_control _ hparameters]
  rfl

/-! ### Characters that are left -/

theorem Scan.ne_esc_of_shows {s : Scan} {c : Char} (h : s.shows c = true) : c ≠ esc := by
  rintro rfl
  cases s <;> exact absurd h (by decide)

theorem esc_not_mem_stripFrom (s : Scan) (cs : List Char) : esc ∉ stripFrom s cs := by
  induction cs generalizing s with
  | nil => exact List.not_mem_nil
  | cons c cs ih =>
    rw [stripFrom]
    split
    · rename_i hshows
      exact List.not_mem_cons_of_ne_of_not_mem (Scan.ne_esc_of_shows hshows).symm (ih _)
    · exact ih _

/-- No `ESC` is left. -/
theorem esc_not_mem_strip (s : String) : esc ∉ (strip s).toList := by
  rw [strip, String.toList_ofList]
  exact esc_not_mem_stripFrom .text s.toList

/-- Of characters without an `ESC` all are shown. -/
theorem stripFrom_text : (cs : List Char) → esc ∉ cs → stripFrom .text cs = cs
  | [], _ => rfl
  | c :: cs, h => by
    have hc : c ≠ esc := (List.ne_of_not_mem_cons h).symm
    have hcs : esc ∉ cs := List.not_mem_of_not_mem_cons h
    have hshows : Scan.text.shows c = true := bne_iff_ne.mpr hc
    rw [stripFrom, if_pos hshows, Scan.next, if_neg hc, stripFrom_text cs hcs]

/-- A text is left as it is exactly if it has no `ESC`. -/
theorem strip_eq_self_iff : strip s = s ↔ esc ∉ s.toList := by
  constructor
  · intro h
    rw [← h]
    exact esc_not_mem_strip s
  · intro h
    rw [strip, stripFrom_text s.toList h, String.ofList_toList]

/-- **Only escapes are removed, and each part of a text by itself.**

* If a text ends between sequences, what is left of it and any other text together is what is left
  of the two. The same holds if it ends right after an `ESC` and the other text does not start with
  `[`.
* Nothing is left of a sequence: of `ESC [` and characters none of which ends it, with or without
  one that does.
* What is left of a text are characters of it in their order, none of which is an `ESC`. It is the
  whole text exactly if there is no `ESC` in it, and it is left as it is a second time. -/
theorem strip_removes_escapes :
    (∀ a b : String, ¬IsUnterminated a → ¬EndsInEscape a → strip (a ++ b) = strip a ++ strip b) ∧
    (∀ a b : String, EndsInEscape a → b.toList.head? ≠ some '[' →
      strip (a ++ b) = strip a ++ strip b) ∧
    (∀ parameters : String, (∀ c ∈ parameters.toList, isFinal c = false) →
      strip ("\x1b[" ++ parameters) = "" ∧
        ∀ c, isFinal c = true → strip ("\x1b[" ++ (parameters ++ String.singleton c)) = "") ∧
    ∀ s : String, esc ∉ (strip s).toList ∧ (strip s).toList.Sublist s.toList ∧
      (strip s = s ↔ esc ∉ s.toList) ∧ strip (strip s) = strip s := by
  refine ⟨fun a b hcontrol hescape => ?_, fun a b hescape hb => ?_, fun _ => strip_sequence,
    fun s => ⟨esc_not_mem_strip s, ?_, strip_eq_self_iff,
      strip_eq_self_iff.mpr (esc_not_mem_strip s)⟩⟩
  · refine strip_append_of_text ?_ b
    unfold IsUnterminated at hcontrol
    unfold EndsInEscape at hescape
    cases h : Scan.text.run a.toList with
    | text => rfl
    | escape => exact absurd h hescape
    | control => exact absurd h hcontrol
  · refine strip_append (fun hcontrol => ?_) hb
    exact nomatch hescape.symm.trans hcontrol
  · rw [strip, String.toList_ofList]
    exact stripFrom_sublist .text s.toList

/-- Behind an `ESC` another one starts a sequence, and both parts are read by themselves. -/
theorem strip_removes_escapes_at_seam : EndsInEscape "ok\x1b" ∧
    strip ("ok\x1b" ++ "\x1b[0m!") = strip "ok\x1b" ++ strip "\x1b[0m!" ∧
    strip (strip "ok\x1b\x1b[0m!") = strip "ok\x1b\x1b[0m!" :=
  have hescape : EndsInEscape "ok\x1b" := by decide
  ⟨hescape, strip_removes_escapes.2.1 _ _ hescape (by decide),
    (strip_removes_escapes.2.2.2 "ok\x1b\x1b[0m!").2.2.2⟩

end RolloutTree.Escape
